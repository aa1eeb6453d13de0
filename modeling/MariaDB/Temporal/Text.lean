/-
The text forms of temporal values in `sql-common/my_time.c`: the printers `my_time_to_str`,
`my_date_to_str` and `my_datetime_to_str`, and the parsers `str_to_datetime_or_date` and
`str_to_datetime_or_date_or_time` with every helper they run.

A string is the list of its bytes, classified as `my_charset_latin1` classifies them. The
printers write fixed-width zero-padded fields, the hours of a `TIME` with as many digits as
they need from 100 on. The parsers first strip spaces, a sign and trailing garbage
(`find_body`). `str_to_datetime_or_date_body` reads either a run of digits of a fixed layout or
numbers between punctuation; `str_to_datetime_or_date_or_time_body` tries it when the text
looks like a date (`is_datetime_body_candidate`) and otherwise, or when the date reading says
so, reads `[DD ]hh:mm:ss[.ffffff]` with `str_to_DDhhmmssff_internal`. A C `||` of helpers is
`orElse` here: each helper updates the scan and returns whether it failed.
-/

import MariaDB.Temporal.Packed
import MariaDB.Library.DecimalText

namespace MariaDB.Temporal

open DecimalText

/-! ### Characters of `latin1` -/

/-- `my_isdigit(&my_charset_latin1, c)`. -/
def myIsdigit (c : ℕ) : Bool := isDigit c

/-- `my_isspace(&my_charset_latin1, c)`: tab to carriage return, space and no-break space. -/
def myIsspace (c : ℕ) : Bool := (9 ≤ c && c ≤ 13) || c == 0x20 || c == 0xA0

/-- `my_ispunct(&my_charset_latin1, c)`: the ASCII punctuation and the `latin1` symbols the
`ctype_latin1` table marks `_MY_PNT`. -/
def myIspunct (c : ℕ) : Bool :=
  (33 ≤ c && c ≤ 47) || (58 ≤ c && c ≤ 64) || (91 ≤ c && c ≤ 96) || (123 ≤ c && c ≤ 126) ||
    c == 128 || c == 130 || (132 ≤ c && c ≤ 137) || c == 139 || (145 ≤ c && c ≤ 153) ||
    c == 155 || (161 ≤ c && c ≤ 191) || c == 215 || c == 247

/-! ### Printing -/

/-- `fmt_number2`: the two digits of a `uint8` below 100, `XX` from the `safety` rows on. -/
def fmtNumber2 (val : ℕ) : List ℕ := if val < 100 then padded 2 val else [0x58, 0x58]

/-- `fmt_number4`. -/
def fmtNumber4 (val : ℕ) : List ℕ := fmtNumber2 (val / 100 % 256) ++ fmtNumber2 (val % 100 % 256)

/-- `fmt_number6`. -/
def fmtNumber6 (val : ℕ) : List ℕ :=
  fmtNumber2 (val / 10000 % 256) ++ fmtNumber2 (val % 10000 / 100 % 256) ++
    fmtNumber2 (val % 10000 % 100 % 256)

/-- `fmt_usec`: the microseconds shifted to `digits` digits. -/
def fmtUsec (val digits : ℕ) : List ℕ :=
  match digits with
  | 1 => [digitByte (val % 10)]
  | 2 => fmtNumber2 (val % 256)
  | 3 => digitByte (val / 100 % 10) :: fmtNumber2 (val % 100 % 256)
  | 4 => fmtNumber4 (val % 65536)
  | 5 => digitByte (val / 10000 % 10) :: fmtNumber4 (val % 10000 % 65536)
  | 6 => fmtNumber6 val
  | _ => []

/-- `TIME_SECOND_PART_DIGITS` and `AUTO_SEC_PART_DIGITS`. -/
def timeSecondPartDigits : ℕ := 6
def autoSecPartDigits : ℕ := 39

/-- `sec_part_shift`. -/
def secPartShift (secondPart digits : ℕ) : ℕ := secondPart / 10 ^ (timeSecondPartDigits - digits)

/-- `my_mmssff_to_str`: `mm:ss` and the fraction of `fsp` digits. -/
def myMmssffToStr (ltime : MysqlTime) (fsp : ℕ) : List ℕ :=
  let fsp := if fsp = autoSecPartDigits then (if ltime.secondPart ≠ 0 then 6 else 0) else fsp
  fmtNumber2 (ltime.minute % 256) ++ 0x3A :: fmtNumber2 (ltime.second % 256) ++
    if fsp ≠ 0 then 0x2E :: fmtUsec (secPartShift ltime.secondPart fsp % 2 ^ 32) fsp else []

/-- `my_time_to_str`: a sign, the hours with the days folded in, and `mm:ss[.ff]`. -/
def myTimeToStr (lTime : MysqlTime) (digits : ℕ) : List ℕ :=
  let day := if lTime.year ≠ 0 ∨ lTime.month ≠ 0 then 0 else lTime.day
  let hour := (day * 24 + lTime.hour) % 2 ^ 32
  (if lTime.neg then [0x2D] else []) ++
    (if hour > 99 then decimal hour else fmtNumber2 (hour % 256)) ++
    0x3A :: myMmssffToStr lTime digits

/-- `my_date_to_str`: `YYYY-MM-DD`. -/
def myDateToStr (lTime : MysqlTime) : List ℕ :=
  fmtNumber4 (lTime.year % 65536) ++ 0x2D :: fmtNumber2 (lTime.month % 256) ++
    0x2D :: fmtNumber2 (lTime.day % 256)

/-- `my_datetime_to_str`: `YYYY-MM-DD hh:mm:ss[.ff]`. -/
def myDatetimeToStr (lTime : MysqlTime) (digits : ℕ) : List ℕ :=
  myDateToStr lTime ++ 0x20 :: fmtNumber2 (lTime.hour % 256) ++ 0x3A :: myMmssffToStr lTime digits

/-! ### The status of a conversion -/

/-- `MYSQL_TIME_STATUS`. -/
structure MysqlTimeStatus where
  warnings : ℕ
  precision : ℕ
  nanoseconds : ℕ
  deriving DecidableEq, Repr

/-- `my_time_status_init`. -/
def myTimeStatusInit : MysqlTimeStatus := ⟨0, 0, 0⟩

/-- The bits of `warnings`. -/
def mysqlTimeWarnTruncated : ℕ := 1
def mysqlTimeWarnOutOfRange : ℕ := 2
def mysqlTimeWarnEdom : ℕ := 4
def mysqlTimeWarnZeroDate : ℕ := 8
def mysqlTimeNoteTruncated : ℕ := 16

/-- The flags `check_date` reads. -/
def cTimeNoZeroInDate : ℕ := 2 ^ 23
def cTimeNoZeroDate : ℕ := 2 ^ 24
def cTimeInvalidDates : ℕ := 2 ^ 25

/-- `set_zero_time`. -/
def setZeroTime (timeType : TimestampType) : MysqlTime := ⟨0, 0, 0, 0, 0, 0, 0, false, timeType⟩

/-! ### Dates -/

/-- `days_in_month`. -/
def daysInMonth : List ℕ := [31, 28, 31, 30, 31, 30, 31, 31, 30, 31, 30, 31, 0]

/-- `calc_days_in_year`. -/
def calcDaysInYear (year : ℕ) : ℕ :=
  if year % 4 = 0 ∧ (year % 100 ≠ 0 ∨ (year % 400 = 0 ∧ year ≠ 0)) then 366 else 365

/-- `check_date`: whether the date is refused, and `was_cut`. -/
def checkDate (ltime : MysqlTime) (notZeroDate : Bool) (flags wasCut : ℕ) : Bool × ℕ :=
  if ltime.timeType = .time then (false, wasCut)
  else if notZeroDate then
    if (flags &&& cTimeNoZeroInDate ≠ 0 ∧ (ltime.month = 0 ∨ ltime.day = 0)) ∨ ltime.neg ∨
        (flags &&& cTimeInvalidDates = 0 ∧ ltime.month ≠ 0 ∧
          ltime.day > daysInMonth.getD (ltime.month - 1) 0 ∧
          (ltime.month ≠ 2 ∨ calcDaysInYear ltime.year ≠ 366 ∨ ltime.day ≠ 29)) then (true, 2)
    else (false, wasCut)
  else if flags &&& cTimeNoZeroDate ≠ 0 then (true, wasCut ||| mysqlTimeWarnZeroDate)
  else (false, wasCut)

/-! ### Reading numbers -/

/-- The parts of a `MYSQL_TIME` the date reader fills. -/
inductive Part
  | year | month | day | hour | minute | second
  deriving DecidableEq, Repr

def MysqlTime.get (t : MysqlTime) : Part → ℕ
  | .year => t.year
  | .month => t.month
  | .day => t.day
  | .hour => t.hour
  | .minute => t.minute
  | .second => t.second

def MysqlTime.set (t : MysqlTime) : Part → ℕ → MysqlTime
  | .year, v => { t with year := v }
  | .month, v => { t with month := v }
  | .day, v => { t with day := v }
  | .hour, v => { t with hour := v }
  | .minute, v => { t with minute := v }
  | .second, v => { t with second := v }

/-- What a reader of `str_to_datetime_or_date_body` threads: the value being filled, the string
from `*str` to `end`, and `number_of_fields`. -/
structure Scan where
  time : MysqlTime
  str : List ℕ
  fields : ℕ
  deriving DecidableEq, Repr

/-- `a || b` of C on steps that update a state and return `1` on failure. -/
def orElse {σ : Type} : List (σ → σ × Bool) → σ → σ × Bool
  | [], s => (s, false)
  | step :: steps, s =>
    let (s, failed) := step s
    if failed then (s, true) else orElse steps s

/-- `get_number` into a `uint`: `1` before a character that is not a digit; otherwise `0`, with
the number read into `val` and counted in `number_of_fields` unless the string is at its end. -/
def getNumber (val fields : ℕ) (str : List ℕ) : Bool × ℕ × ℕ × List ℕ :=
  match str with
  | [] => (false, val, fields, [])
  | c :: s =>
    if myIsdigit c then
      let (val, rest) := readDigits (2 ^ 32) (c - 0x30) s
      (false, val, fields + 1, rest)
    else (true, val, fields, c :: s)

/-- `get_digits`: `get_number` over at most `length` characters. -/
def getDigits (val fields : ℕ) (str : List ℕ) (length : ℕ) : Bool × ℕ × ℕ × List ℕ :=
  let (failed, val, fields, rest) := getNumber val fields (str.take length)
  (failed, val, fields, rest ++ str.drop length)

/-- `get_number` into a part of the value. -/
def numberInto (part : Part) (s : Scan) : Scan × Bool :=
  let (failed, val, fields, rest) := getNumber (s.time.get part) s.fields s.str
  (⟨s.time.set part val, rest, fields⟩, failed)

/-- `get_digits` into a part of the value. -/
def digitsInto (part : Part) (length : ℕ) (s : Scan) : Scan × Bool :=
  let (failed, val, fields, rest) := getDigits (s.time.get part) s.fields s.str length
  (⟨s.time.set part val, rest, fields⟩, failed)

/-- `get_punct`. -/
def getPunct (s : Scan) : Scan × Bool :=
  match s.str with
  | [] => (s, false)
  | c :: rest => if myIspunct c then ({ s with str := rest }, false) else (s, true)

/-- `get_date_time_separator`: a `T`, a punctuation character when it may separate the date and
the time (a hard stop that clears `number_of_fields` otherwise), or spaces. -/
def getDateTimeSeparator (punctIsDateTimeSeparator : Bool) (s : Scan) : Scan × Bool :=
  match s.str with
  | [] => (s, false)
  | c :: rest =>
    if c = 0x54 then ({ s with str := rest }, false)
    else if myIspunct c then
      if punctIsDateTimeSeparator then ({ s with str := rest }, false)
      else ({ s with fields := 0 }, true)
    else if myIsspace c then ({ s with str := rest.dropWhile myIsspace }, false)
    else (s, true)

/-- `get_maybe_T`. -/
def getMaybeT (s : Scan) : Scan × Bool :=
  match s.str with
  | 0x54 :: rest => ({ s with str := rest }, false)
  | _ => (s, false)

/-- `skip_digits`: how many digits there are, and what follows them. -/
def skipDigits (str : List ℕ) : ℕ × List ℕ :=
  ((str.takeWhile myIsdigit).length, str.dropWhile myIsdigit)

/-- `get_microseconds`: the fraction after the point, scaled to microseconds, the status, the
fields counted and what is left of the string. -/
def getMicroseconds (status : MysqlTimeStatus) (fields : ℕ) (str : List ℕ) :
    ℕ × MysqlTimeStatus × ℕ × List ℕ :=
  let (failed, tmp, fields, rest) := getDigits 0 fields str 6
  let status := if failed then { status with warnings := status.warnings ||| mysqlTimeWarnTruncated }
    else status
  let precision := str.length - rest.length
  let status := { status with precision }
  let val := if precision < 6 then tmp * 10 ^ (6 - precision) else tmp
  let status := match rest with
    | c :: _ => if myIsdigit c then { status with nanoseconds := 100 * (c - 0x30) } else status
    | [] => status
  let (skipped, rest) := skipDigits rest
  let status := if skipped ≠ 0 then
      { status with warnings := status.warnings ||| mysqlTimeNoteTruncated }
    else status
  (val, status, fields, rest)

/-! ### The body of a value -/

/-- `get_suffix` over the string reversed: whether it drops garbage, and what it keeps,
reversed. Spaces go silently, and a `T` stays after a digit. -/
def getSuffixLoop : List ℕ → Bool × List ℕ
  | [] => (false, [])
  | ch :: before =>
    if myIsdigit ch || myIspunct ch then (false, ch :: before)
    else if myIsspace ch then getSuffixLoop before
    else if ch = 0x54 ∧ (before.head?.map myIsdigit) = some true then (false, ch :: before)
    else (true, (getSuffixLoop before).2)

/-- `get_suffix`: remove trailing spaces and garbage. -/
def getSuffix (str : List ℕ) : Bool × List ℕ :=
  let (garbage, kept) := getSuffixLoop str.reverse
  (garbage, kept.reverse)

/-- `get_sign`. -/
def getSign (str : List ℕ) : Bool × List ℕ :=
  match str with
  | [] => (false, [])
  | c :: rest => if c = 0x2D then (true, rest) else if c = 0x2B then (false, rest) else (false, str)

/-- `find_body`: the sign, the warnings and the body between leading spaces, a sign, spaces and
trailing garbage; `none` when the body does not start with a digit. -/
def findBody (str : List ℕ) : Option (Bool × ℕ × List ℕ) :=
  let str := str.dropWhile myIsspace
  let (neg, str) := getSign str
  let str := str.dropWhile myIsspace
  let (garbage, str) := getSuffix str
  let warn := if garbage then mysqlTimeWarnTruncated else 0
  match str with
  | c :: _ => if myIsdigit c then some (neg, warn, str) else none
  | [] => none

/-- The warnings `find_body` leaves when it finds no body. -/
def findBodyWarnings (str : List ℕ) : ℕ :=
  let str := (getSign (str.dropWhile myIsspace)).2.dropWhile myIsspace
  (if (getSuffix str).1 then mysqlTimeWarnTruncated else 0) ||| mysqlTimeWarnEdom

/-- `MYSQL_TIME_USED_CHAR_STATISTICS` of a string. -/
structure UsedCharStatistics where
  countPunct : ℕ
  countColon : ℕ
  countIsoDateTimeSeparator : ℕ

/-- `mysql_time_used_char_statistics_init`. -/
def usedCharStatistics (str : List ℕ) : UsedCharStatistics :=
  ⟨str.countP myIspunct, str.count 0x3A, str.count 0x54⟩

/-- The loop of `is_datetime_body_candidate` over the characters, with the punctuation
counted so far. -/
def datetimeCandidateLoop (allowDatesDelimited allowDatesNumeric : Bool) :
    ℕ → List ℕ → Bool
  | countPunct, [] => allowDatesNumeric && countPunct == 0
  | countPunct, c :: rest =>
    if c = 0x54 then true
    else if c = 0x20 then countPunct > 0
    else if myIspunct c then
      if allowDatesDelimited ∧ c ≠ 0x3A then true
      else datetimeCandidateLoop allowDatesDelimited allowDatesNumeric (countPunct + 1) rest
    else datetimeCandidateLoop allowDatesDelimited allowDatesNumeric countPunct rest

/-- `is_datetime_body_candidate`. -/
def isDatetimeBodyCandidate (str : List ℕ) (allowDatesDelimited allowDatesNumeric : Bool) :
    Bool :=
  if str.length ≥ 12 then true
  else if str.length < 5 + (if allowDatesDelimited then 0 else 1) ∧ !allowDatesNumeric then false
  else datetimeCandidateLoop allowDatesDelimited allowDatesNumeric 0 str

/-- What `str_to_datetime_or_date_body` returns and leaves in its arguments. -/
structure BodyResult where
  failed : Bool
  time : MysqlTime
  status : MysqlTimeStatus
  fields : ℕ
  endptr : List ℕ

/-- The `[YY]YYMMDD[T][hhmmss[.uuuuuu]]` layout: how many digits it has, and what follows. -/
def numericLayout (str : List ℕ) : ℕ × List ℕ :=
  let (digits, pos) := skipDigits str
  let (digits, pos) := match pos with
    | 0x54 :: rest => (digits + (skipDigits rest).1, (skipDigits rest).2)
    | _ => (digits, pos)
  match pos with
  | 0x2E :: rest => if digits ≥ 12 then (digits, (skipDigits rest).2) else (digits, pos)
  | _ => (digits, pos)

/-- The readers of the numeric layout. -/
def numericReaders (yearLength : ℕ) : List (Scan → Scan × Bool) :=
  [digitsInto .year yearLength, digitsInto .month 2, digitsInto .day 2, getMaybeT,
    digitsInto .hour 2, digitsInto .minute 2, digitsInto .second 2]

/-- The readers of the delimited layout after the year. -/
def delimitedReaders (punctIsDateTimeSeparator : Bool) : List (Scan → Scan × Bool) :=
  [getPunct, numberInto .month, getPunct, numberInto .day,
    getDateTimeSeparator punctIsDateTimeSeparator, numberInto .hour, getPunct,
    numberInto .minute, getPunct, numberInto .second]

/-- Whether any part of the value is not zero. -/
def MysqlTime.notZero (t : MysqlTime) : Bool :=
  t.year ≠ 0 || t.month ≠ 0 || t.day ≠ 0 || t.hour ≠ 0 || t.minute ≠ 0 || t.second ≠ 0 ||
    t.secondPart ≠ 0

/-- The end of `str_to_datetime_or_date_body` once the parts are read: the fraction, the
century of a two-digit year, the ranges, `check_date` and the type. -/
def finishDatetimeOrDateBody (scan : Scan) (warn yearLength flags : ℕ)
    (status : MysqlTimeStatus) : BodyResult :=
  let (scan, status) :=
    match scan.str with
    | 0x2E :: rest =>
      if warn = 0 then
        let (secondPart, status, fields, rest) :=
          getMicroseconds status scan.fields rest
        (({ time := { scan.time with secondPart }, str := rest, fields } : Scan), status)
      else (scan, status)
    | _ => (scan, status)
  let notZeroDate := scan.time.notZero
  let t := scan.time
  let t := if yearLength = 2 ∧ notZeroDate then
      { t with year := t.year + if t.year < 70 then 2000 else 1900 }
    else t
  if t.year > 9999 ∨ t.month > 12 ∨ t.day > 31 ∨ t.hour > 23 ∨ t.minute > 59 ∨ t.second > 59
  then
    ⟨true, setZeroTime .error,
      { status with warnings := status.warnings ||| mysqlTimeWarnTruncated }, scan.fields, scan.str⟩
  else
    match checkDate t notZeroDate flags status.warnings with
    | (true, warnings) => ⟨true, setZeroTime .error, { status with warnings }, scan.fields, scan.str⟩
    | (false, warnings) =>
      let t := { t with timeType := if scan.fields ≤ 3 then .date else .datetime }
      let warnings := if scan.str ≠ [] then mysqlTimeWarnTruncated else warnings
      ⟨false, t, { status with warnings }, scan.fields, scan.str⟩

/-- `str_to_datetime_or_date_body`. -/
def strToDatetimeOrDateBody (str : List ℕ) (flags : ℕ) (punctIsDateTimeSeparator : Bool)
    (status : MysqlTimeStatus) : BodyResult :=
  -- `bzero` leaves the type `0`, `MYSQL_TIMESTAMP_DATE`
  let start : Scan := ⟨setZeroTime .date, str, 0⟩
  let (digits, pos) := numericLayout str
  let (scan, warn, yearLength) :=
    if pos = [] then
      let yearLength := if digits = 4 ∨ digits = 8 ∨ digits ≥ 14 then 4 else 2
      let (scan, failed) := orElse (numericReaders yearLength) start
      (scan, if failed then mysqlTimeWarnTruncated else 0, yearLength)
    else
      let (scan, failed) := numberInto .year start
      let yearLength := str.length - scan.str.length
      if failed then (scan, mysqlTimeWarnTruncated, yearLength)
      else
        let (scan, failed) := orElse (delimitedReaders punctIsDateTimeSeparator) scan
        (scan, if failed then mysqlTimeWarnTruncated else 0, yearLength)
  let status := { status with warnings := status.warnings ||| warn }
  if scan.fields < 3 then
    ⟨true, { scan.time with timeType := .none },
      { status with warnings := status.warnings ||| mysqlTimeWarnTruncated }, scan.fields, scan.str⟩
  else finishDatetimeOrDateBody scan warn yearLength flags status

/-! ### Times -/

/-- `TIME_MAX_HOUR`, `UINT_MAX32` and `max_sec_part`. -/
def timeMaxHour : ℕ := 838
def uintMax32 : ℕ := 2 ^ 32 - 1
def maxSecPart : List ℕ := [0, 900000, 990000, 999000, 999900, 999990, 999999]

/-- `check_time_range_internal`: whether the time is refused, the time cut to the range, and
the warnings. -/
def checkTimeRangeInternal (t : MysqlTime) (maxHour errHour dec warning : ℕ) :
    Bool × MysqlTime × ℕ :=
  if t.minute ≥ 60 ∨ t.second ≥ 60 ∨ t.hour > errHour then
    (true, t, warning ||| mysqlTimeWarnTruncated)
  else
    let hour := t.hour + 24 * t.day
    let dec := if dec = autoSecPartDigits then timeSecondPartDigits else dec
    if hour ≤ maxHour ∧ (hour ≠ maxHour ∨ t.minute ≠ 59 ∨ t.second ≠ 59 ∨
        t.secondPart ≤ maxSecPart.getD dec 0) then (false, t, warning)
    else
      let cut : MysqlTime :=
        { t with
          day := 0
          hour := maxHour
          minute := 59
          second := 59
          secondPart := maxSecPart.getD dec 0 }
      (false, cut, warning ||| mysqlTimeWarnOutOfRange)

/-- The first loop of `str_to_DDhhmmssff_internal`: days or hours, refused from
`42949672955959` on; the error keeps the string at the digit that overflowed. -/
def readDaysValue (value : ℕ) : List ℕ → Except (List ℕ) (ℕ × List ℕ)
  | [] => .ok (value, [])
  | c :: s =>
    if myIsdigit c then
      let value := value * 10 + (c - 0x30)
      if value ≥ 42949672955959 then .error (c :: s) else readDaysValue value s
    else .ok (value, c :: s)

/-- The `hh:mm:ss` loop of `str_to_DDhhmmssff_internal`, from `date[state]` on; it stops at
`state` 4, so `4 - state` rounds are all it runs. -/
def readTimeParts : ℕ → List ℕ → ℕ → List ℕ → List ℕ × ℕ × List ℕ
  | 0, date, state, str => (date, state, str)
  | rounds + 1, date, state, str =>
    let (value, str) := readDigits (2 ^ 64) 0 str
    let date := date.set state value
    let state := state + 1
    match str with
    | 0x3A :: d :: rest =>
      if state = 4 ∨ !myIsdigit d then (date, state, str)
      else readTimeParts rounds date state (d :: rest)
    | _ => (date, state, str)

/-- The fractional part of `str_to_DDhhmmssff_internal`: the microseconds, the status and the
rest. -/
def readFraction (status : MysqlTimeStatus) (str : List ℕ) : ℕ × MysqlTimeStatus × List ℕ :=
  match str with
  | 0x2E :: rest =>
    let (val, status, _, rest) := getMicroseconds status 0 rest
    (val, status, rest)
  | _ => (0, status, str)

/-- An exponent `E<digit>` or `E<sign><digit>` after the time. -/
def hasExponent (str : List ℕ) : Bool :=
  match str with
  | e :: c :: rest =>
    (e == 0x65 || e == 0x45) &&
      (myIsdigit c || ((c == 0x2D || c == 0x2B) && (rest.head?.map myIsdigit) == some true))
  | _ => false

/-- What `str_to_DDhhmmssff_internal` returns and leaves in its arguments. -/
structure TimeResult where
  failed : Bool
  time : MysqlTime
  status : MysqlTimeStatus
  endptr : List ℕ

/-- The end of `str_to_DDhhmmssff_internal` once `date[0..3]` is read: the fraction, the
exponent and overflow checks, and the range. -/
def finishDDhhmmssff (neg : Bool) (date : List ℕ) (str : List ℕ) (lTime : MysqlTime)
    (maxHour errHour : ℕ) (status : MysqlTimeStatus) : TimeResult :=
  let (secondPart, status, str) := readFraction status str
  let date := date.set 4 secondPart
  if hasExponent str then
    ⟨true, lTime, { status with warnings := status.warnings ||| mysqlTimeWarnTruncated }, str⟩
  -- `internal_format_positions[7]` is `255`: no AM/PM is read
  else if date.any (· > 2 ^ 32 - 1) ∨ date.getD 0 0 * 24 + date.getD 1 0 > uintMax32 then
    ⟨true, lTime, { status with warnings := status.warnings ||| mysqlTimeWarnOutOfRange }, str⟩
  else
    let t : MysqlTime := ⟨0, 0, 0, date.getD 1 0 + date.getD 0 0 * 24, date.getD 2 0,
      date.getD 3 0, date.getD 4 0, neg, .time⟩
    match checkTimeRangeInternal t maxHour errHour 6 status.warnings with
    | (true, t, warnings) => ⟨true, t, { status with warnings }, str⟩
    | (false, t, warnings) =>
      let warnings := if str ≠ [] then warnings ||| mysqlTimeWarnTruncated else warnings
      ⟨false, t, { status with warnings }, str⟩

/-- `str_to_DDhhmmssff_internal`: `[DD ]hh:mm:ss[.ffffff]`, or one number read as `hhmmss`. -/
def strToDDhhmmssffInternal (neg : Bool) (str : List ℕ) (lTime : MysqlTime)
    (maxHour errHour : ℕ) (status : MysqlTimeStatus) : TimeResult :=
  let lTime := { lTime with neg }
  match readDaysValue 0 str with
  | .error stop =>
    ⟨true, lTime, { status with warnings := status.warnings ||| mysqlTimeWarnOutOfRange }, stop⟩
  | .ok (value, endOfDays) =>
    let spaces := endOfDays.takeWhile myIsspace
    let str := endOfDays.dropWhile myIsspace
    match str with
    | d :: rest =>
      if spaces ≠ [] ∧ rest ≠ [] ∧ myIsdigit d then
        -- a days part; `hh:mm:ss` follow from `date[1]`
        let (date, state, str) := readTimeParts 3 [value, 0, 0, 0, 0] 1 str
        let date := (date.take state) ++ List.replicate (5 - state) 0
        finishDDhhmmssff neg date str lTime maxHour errHour status
      else if d = 0x3A ∧ (rest.head?.map myIsdigit) = some true then
        if value ≥ 2 ^ 32 - 1 then
          ⟨true, lTime, { status with warnings := status.warnings ||| mysqlTimeWarnOutOfRange },
            str⟩
        else
          let (date, state, str) := readTimeParts 2 [0, value, 0, 0, 0] 2 rest
          let date := (date.take state) ++ List.replicate (5 - state) 0
          finishDDhhmmssff neg date str lTime maxHour errHour status
      else
        finishDDhhmmssff neg [0, value / 10000, value / 100 % 100, value % 100, 0] str lTime
          maxHour errHour status
    | [] =>
      finishDDhhmmssff neg [0, value / 10000, value / 100 % 100, value % 100, 0] [] lTime
        maxHour errHour status

/-! ### The conversions -/

/-- What a conversion returns: whether it failed, the value and the status. -/
structure Conversion where
  failed : Bool
  time : MysqlTime
  status : MysqlTimeStatus

/-- `set_neg`: a negative sign is refused on anything but a `TIME`. -/
def setNeg (neg : Bool) (status : MysqlTimeStatus) (lTime : MysqlTime) : Conversion :=
  let lTime := { lTime with neg }
  if neg ∧ lTime.timeType ≠ .time then
    ⟨true, lTime, { status with warnings := status.warnings ||| mysqlTimeWarnOutOfRange }⟩
  else ⟨false, lTime, status⟩

/-- `str_to_datetime_or_date_or_time_body`. -/
def strToDatetimeOrDateOrTimeBody (str : List ℕ) (lTime : MysqlTime) (fuzzydate : ℕ)
    (status : MysqlTimeStatus) (timeMaxHour timeErrHour : ℕ)
    (allowDatesDelimited allowDatesNumeric : Bool) : Conversion :=
  let asTime (lTime : MysqlTime) (status : MysqlTimeStatus) : Conversion :=
    let r := strToDDhhmmssffInternal false str lTime timeMaxHour timeErrHour status
    if r.failed then ⟨true, setZeroTime .error, r.status⟩ else ⟨false, r.time, r.status⟩
  if isDatetimeBodyCandidate str allowDatesDelimited allowDatesNumeric then
    let warnCopy := status.warnings
    let r := strToDatetimeOrDateBody str fuzzydate false status
    let used := usedCharStatistics (str.take (str.length - r.endptr.length))
    let retry := asTime r.time { myTimeStatusInit with warnings := warnCopy }
    match r.time.timeType with
    | .datetime => ⟨false, r.time, r.status⟩
    | .date =>
      if used.countIsoDateTimeSeparator ≠ 0 ∨ used.countColon = 0 then ⟨false, r.time, r.status⟩
      else retry
    | .error =>
      if r.fields > 3 then ⟨true, r.time, r.status⟩
      else if used.countIsoDateTimeSeparator ≠ 0 ∨ used.countColon = 0 then
        ⟨true, r.time, r.status⟩
      else retry
    | .none =>
      if allowDatesNumeric ∧ r.endptr = [] ∧ used.countIsoDateTimeSeparator = 0 ∧
          used.countColon = 0 ∧ used.countPunct = 0 then ⟨true, r.time, r.status⟩
      else retry
    | .time => retry
  else asTime lTime status

/-- `str_to_datetime_or_date`. -/
def strToDatetimeOrDate (str : List ℕ) (flags : ℕ) : Conversion :=
  match findBody str with
  | none => ⟨true, setZeroTime .error, { myTimeStatusInit with warnings := findBodyWarnings str }⟩
  | some (neg, warn, body) =>
    let r := strToDatetimeOrDateBody body flags true { myTimeStatusInit with warnings := warn }
    if r.failed then ⟨true, r.time, r.status⟩ else setNeg neg r.status r.time

/-- `str_to_datetime_or_date_or_time`. -/
def strToDatetimeOrDateOrTime (str : List ℕ) (lTime : MysqlTime)
    (mode timeMaxHour timeErrHour : ℕ) : Conversion :=
  match findBody str with
  | none => ⟨true, setZeroTime .error, { myTimeStatusInit with warnings := findBodyWarnings str }⟩
  | some (neg, warn, body) =>
    let r := strToDatetimeOrDateOrTimeBody body lTime mode { myTimeStatusInit with warnings := warn }
      timeMaxHour timeErrHour false false
    if r.failed then r else setNeg neg r.status r.time

end MariaDB.Temporal
