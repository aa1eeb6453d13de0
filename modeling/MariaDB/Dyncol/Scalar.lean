/-
Scalar values in dynamic columns (mysys/ma_dyncol.c): integers, dates and times.

An unsigned integer is stored as its bytes up to the last nonzero one, least significant first,
so `0` takes no byte; a signed one is first sent to an unsigned one by the zig-zag code
`(v << 1) ^ (v < 0 ? ~0 : 0)`, which takes `0, -1, 1, -2, ...` to `0, 1, 2, 3, ...`. A number
stored beside other data (the character set of a string) takes seven bits a byte, the high
bit set on every byte but the last. A date takes three bytes: fourteen bits of year, four of
month and five of day. A time takes six, with twenty bits of microseconds, six of seconds, six
of minutes, ten of hours and a sign bit; in the names format a time without microseconds
takes three. A datetime is a date and a time.

Each reader inverts its writer on the values the writer is made for: every `longlong`, every
`ulonglong`, and every date, time and datetime whose fields are in the ranges the writers
assert and whose fields of the other kind are zero. The writers of dates and times also clear
in `*value` the fields its type does not have (`dateStoreValue`, `timeStoreValue`).
-/

import MariaDB.Dyncol.Format
import MariaDB.Temporal.Packed
import MariaDB.Sql.IntArith

namespace MariaDB.Dyncol

open BitFields
open Temporal (MysqlTime TimestampType)
open Sql (IsLonglong ulonglongMax)

/-! ### Integers -/

/-- `dynamic_column_var_uint_bytes`: seven bits a byte, at least one byte. -/
def varUintBytes (val : ℕ) : ℕ :=
  if val / 128 = 0 then 1 else varUintBytes (val / 128) + 1
termination_by val
decreasing_by omega

/-- `dynamic_column_uint_bytes`: the bytes up to the last nonzero one. -/
def uintBytes (val : ℕ) : ℕ :=
  if val = 0 then 0 else uintBytes (val / 256) + 1
termination_by val
decreasing_by omega

/-- `dynamic_column_sint_bytes`. -/
def sintBytes (val : ℤ) : ℕ := uintBytes (sintToUint val)

/-- `dynamic_column_sint_store`. -/
def sintStore (val : ℤ) : List UInt8 := uintStore (sintToUint val)

/-- `dynamic_column_sint_read`. -/
def sintRead (data : List UInt8) : ℤ := sintOfUint (uintRead data)

theorem varUintBytes_of_lt {val : ℕ} (small : val < 128) : varUintBytes val = 1 := by
  rw [varUintBytes, if_pos (by omega)]

theorem varUintBytes_of_le {val : ℕ} (large : 128 ≤ val) :
    varUintBytes val = varUintBytes (val / 128) + 1 := by
  rw [varUintBytes, if_neg (by omega)]

theorem varUintBytes_pos (val : ℕ) : 0 < varUintBytes val := by
  rw [varUintBytes]
  split <;> omega

theorem uintBytes_zero : uintBytes 0 = 0 := by
  rw [uintBytes, if_pos rfl]

theorem uintBytes_of_ne_zero {val : ℕ} (nonzero : val ≠ 0) :
    uintBytes val = uintBytes (val / 256) + 1 := by
  rw [uintBytes, if_neg nonzero]

/-- A byte written from a number keeps its low eight bits. -/
theorem toUInt8_toNat (n : ℕ) : n.toUInt8.toNat = n % 256 := by
  simp

/-- The loop of `dynamic_column_uint_store` with room for `bytes` bytes writes all the bytes of
a number below `256 ^ bytes`, `dynamic_column_uint_bytes` of them. -/
theorem uintStoreLoop_spec (bytes : ℕ) {val : ℕ} (small : val < 256 ^ bytes) :
    (uintStoreLoop bytes val).length = uintBytes val ∧
      leValue (uintStoreLoop bytes val) = val := by
  induction bytes generalizing val with
  | zero =>
    obtain rfl : val = 0 := by simpa using small
    simp [uintStoreLoop, leValue, uintBytes_zero]
  | succ bytes inductionHypothesis =>
    by_cases zero : val = 0
    · subst zero
      simp [uintStoreLoop, leValue, uintBytes_zero]
    · have rest : val / 256 < 256 ^ bytes := by
        rw [Nat.pow_succ] at small
        omega
      obtain ⟨length, value⟩ := inductionHypothesis rest
      rw [uintStoreLoop, if_neg zero, uintBytes_of_ne_zero zero]
      refine ⟨by rw [List.length_cons, length], ?_⟩
      rw [leValue, value, toUInt8_toNat]
      omega

theorem uintStore_spec {val : ℕ} (small : val ≤ ulonglongMax) :
    (uintStore val).length = uintBytes val ∧ uintRead (uintStore val) = val := by
  have fits : val < 256 ^ 8 := by
    unfold ulonglongMax at small
    omega
  obtain ⟨length, value⟩ := uintStoreLoop_spec 8 fits
  refine ⟨length, ?_⟩
  rw [uintRead, uintStore, value]
  omega

theorem sintToUint_lt (val : ℤ) : sintToUint val ≤ ulonglongMax := by
  unfold sintToUint ulonglongMax
  split <;> omega

/-- The zig-zag code of a `longlong`: twice a number that is not negative, and one less than
minus twice a negative one. -/
theorem sintToUint_natCast {val : ℤ} (isLonglong : IsLonglong val) :
    (sintToUint val : ℤ) = if val < 0 then -2 * val - 1 else 2 * val := by
  unfold IsLonglong at isLonglong
  unfold sintToUint
  split <;> omega

theorem sintOfUint_sintToUint {val : ℤ} (isLonglong : IsLonglong val) :
    sintOfUint (sintToUint val) = val := by
  have code := sintToUint_natCast isLonglong
  unfold sintOfUint
  split <;> split at code <;> omega

/-- A number below `128` is one byte, without the high bit. -/
theorem varUintGet_varUintStoreLoop_of_lt (bytes : ℕ) {val : ℕ} (small : val < 128)
    (rest : List UInt8) :
    varUintGet (varUintStoreLoop (bytes + 1) val ++ rest) = (val, varUintBytes val) ∧
      (varUintStoreLoop (bytes + 1) val).length = varUintBytes val := by
  have byte : (val % 128 + 0).toUInt8.toNat = val := by
    rw [toUInt8_toNat]
    omega
  simp only [varUintStoreLoop, show val / 128 = 0 by omega, ne_eq, not_true_eq_false, if_false,
    List.cons_append, List.nil_append, varUintGet, byte, if_pos small, varUintBytes_of_lt small,
    List.length_singleton, and_self]

/-- Every `longlong` comes back from its zig-zag bytes, `dynamic_column_sint_bytes` of them. -/
theorem sintStore_spec {val : ℤ} (isLonglong : IsLonglong val) :
    (sintStore val).length = sintBytes val ∧ sintRead (sintStore val) = val := by
  obtain ⟨length, read⟩ := uintStore_spec (sintToUint_lt val)
  refine ⟨length, ?_⟩
  rw [sintRead, sintStore, read, sintOfUint_sintToUint isLonglong]

/-- The bytes of `dynamic_column_var_uint_store` with room for `bytes + 1` bytes read back
by `dynamic_column_var_uint_get`, whatever follows them: the number and the count
`dynamic_column_var_uint_bytes` of its bytes. -/
theorem varUintGet_varUintStoreLoop (bytes : ℕ) {val : ℕ} (small : val < 128 ^ (bytes + 1))
    (rest : List UInt8) :
    varUintGet (varUintStoreLoop (bytes + 1) val ++ rest) = (val, varUintBytes val) ∧
      (varUintStoreLoop (bytes + 1) val).length = varUintBytes val := by
  -- on the room left: a number past one byte leaves its rest to a loop with one byte less
  induction bytes generalizing val with
  | zero => exact varUintGet_varUintStoreLoop_of_lt 0 (by omega) rest
  | succ bytes inductionHypothesis =>
    by_cases last : val < 128
    · exact varUintGet_varUintStoreLoop_of_lt (bytes + 1) last rest
    · have restSmall : val / 128 < 128 ^ (bytes + 1) := by
        rw [Nat.pow_succ] at small
        omega
      obtain ⟨get, length⟩ := inductionHypothesis restSmall
      obtain ⟨count, counted⟩ : ∃ count, varUintBytes (val / 128) = count + 1 :=
        ⟨_, (Nat.succ_pred_eq_of_pos (varUintBytes_pos _)).symm⟩
      have byte : (val % 128 + 128).toUInt8.toNat = val % 128 + 128 := by
        rw [toUInt8_toNat]
        omega
      rw [varUintBytes_of_le (by omega), counted, varUintStoreLoop]
      simp only [show val / 128 ≠ 0 by omega, ne_eq, not_false_eq_true, if_true, List.cons_append]
      rw [varUintGet, byte, if_neg (by omega), get, counted]
      refine ⟨?_, by rw [List.length_cons, length, counted]⟩
      show ((val % 128 + 128) % 128 + 128 * (val / 128), count + 1 + 1) = (val, count + 1 + 1)
      congr 1
      omega

theorem varUintStore_spec {val : ℕ} (small : val ≤ ulonglongMax) (rest : List UInt8) :
    varUintGet (varUintStore val ++ rest) = (val, varUintBytes val) ∧
      (varUintStore val).length = varUintBytes val := by
  have fits : val < 128 ^ (9 + 1) := by
    unfold ulonglongMax at small
    omega
  exact varUintGet_varUintStoreLoop 9 fits rest

/-! ### Dates and times -/

/-- `enum enum_dyncol_format`: numbered columns, or named ones. -/
inductive DyncolFormat
  | num | str
  deriving DecidableEq, Repr

/-- What `dynamic_column_date_store` leaves in `*value`: a value that is no date (`NONE`,
`ERROR` or a `TIME`) loses its year, month and day. -/
def dateStoreValue (value : MysqlTime) : MysqlTime :=
  match value.timeType with
  | .none | .error | .time => { value with year := 0, month := 0, day := 0 }
  | .date | .datetime => value

/-- `dynamic_column_date_store`: `0<year><month><day>` in 1, 14, 4 and 5 bits, least significant
byte first. -/
def dateStore (value : MysqlTime) : List UInt8 :=
  let value := dateStoreValue value
  [(value.day ||| (value.month &&& 0x7) <<< 5).toUInt8,
    (value.month >>> 3 ||| (value.year &&& 0x7F) <<< 1).toUInt8,
    (value.year >>> 7).toUInt8]

/-- What `dynamic_column_time_store` leaves in `*value`: a value that has no time (`NONE`,
`ERROR` or a `DATE`) loses its sign, microseconds, hours, minutes and seconds. -/
def timeStoreValue (value : MysqlTime) : MysqlTime :=
  match value.timeType with
  | .none | .error | .date =>
    { value with neg := false, secondPart := 0, hour := 0, minute := 0, second := 0 }
  | .datetime | .time => value

/-- `dynamic_column_time_store`: six bytes `00000<sign><hours><minutes><seconds><microseconds>`
in 5, 1, 10, 6, 6 and 20 bits, in the numeric format or with microseconds; otherwise three
bytes `<sign><hours><minutes><seconds>` in 1, 11, 6 and 6 bits. -/
def timeStore (value : MysqlTime) (format : DyncolFormat) : List UInt8 :=
  let value := timeStoreValue value
  if format = .num ∨ value.secondPart ≠ 0 then
    [(value.secondPart &&& 0xff).toUInt8,
      ((value.secondPart &&& 0xff00) >>> 8).toUInt8,
      ((value.second &&& 0xf) <<< 4 ||| (value.secondPart &&& 0xf0000) >>> 16).toUInt8,
      (value.minute <<< 2 ||| (value.second &&& 0x30) >>> 4).toUInt8,
      (value.hour &&& 0xff).toUInt8,
      ((if value.neg then 0x4 else 0) ||| value.hour >>> 8).toUInt8]
  else
    [(value.second ||| (value.minute &&& 0x3) <<< 6).toUInt8,
      (value.minute >>> 2 ||| (value.hour &&& 0xf) <<< 4).toUInt8,
      (value.hour >>> 4 ||| if value.neg then 0x80 else 0).toUInt8]

theorem timeStore_length (value : MysqlTime) (format : DyncolFormat) :
    (timeStore value format).length =
      if format = .num ∨ (timeStoreValue value).secondPart ≠ 0 then 6 else 3 := by
  simp only [timeStore]
  split <;> rfl

/-- `dynamic_column_date_time_store`: the date, then the time. -/
def dateTimeStore (value : MysqlTime) (format : DyncolFormat) : List UInt8 :=
  dateStore value ++ timeStore value format

/-- `dynamic_column_date_read_internal`: the year, month and day of `storeItHere` from three
bytes; another length, or a field out of range, is `ER_DYNCOL_FORMAT` with the type `ERROR`. -/
def dateReadInternal (storeItHere : MysqlTime) (data : List UInt8) :
    DyncolFuncResult × MysqlTime :=
  match data with
  | [b0, b1, b2] =>
    let value := { storeItHere with
      day := b0.toNat &&& 0x1f
      month := (b1.toNat &&& 0x1) <<< 3 ||| b0.toNat >>> 5
      year := b2.toNat <<< 7 ||| b1.toNat >>> 1 }
    if 31 < value.day ∨ 12 < value.month ∨ 9999 < value.year then
      (.format, { value with timeType := .error })
    else (.ok, value)
  | _ => (.format, { storeItHere with timeType := .error })

/-- `dynamic_column_time_read_internal`: the sign, hours, minutes, seconds and microseconds of
`storeItHere` from six bytes or three; another length, or a field out of range, is
`ER_DYNCOL_FORMAT` with the type `ERROR`. -/
def timeReadInternal (storeItHere : MysqlTime) (data : List UInt8) :
    DyncolFuncResult × MysqlTime :=
  let read : Option MysqlTime :=
    match data with
    | [b0, b1, b2, b3, b4, b5] => some { storeItHere with
        secondPart := b0.toNat ||| b1.toNat <<< 8 ||| (b2.toNat &&& 0xf) <<< 16
        second := b2.toNat >>> 4 ||| (b3.toNat &&& 0x3) <<< 4
        minute := b3.toNat >>> 2
        hour := (b5.toNat &&& 0x3) <<< 8 ||| b4.toNat
        neg := decide (b5.toNat &&& 0x4 ≠ 0) }
    | [b0, b1, b2] => some { storeItHere with
        secondPart := 0
        second := b0.toNat &&& 0x3f
        minute := b0.toNat >>> 6 ||| (b1.toNat &&& 0xf) <<< 2
        hour := b1.toNat >>> 4 ||| (b2.toNat &&& 0x3f) <<< 4
        neg := decide (b2.toNat &&& 0x80 ≠ 0) }
    | _ => none
  match read with
  | some value =>
    if 59 < value.second ∨ 59 < value.minute ∨ 838 < value.hour ∨
        999999 < value.secondPart then
      (.format, { value with timeType := .error })
    else (.ok, value)
  | none => (.format, { storeItHere with timeType := .error })

/-- `dynamic_column_date_read`: a `DATE` without time. -/
def dateRead (storeItHere : MysqlTime) (data : List UInt8) : DyncolFuncResult × MysqlTime :=
  dateReadInternal
    { storeItHere with
      neg := false, secondPart := 0, hour := 0, minute := 0, second := 0, timeType := .date }
    data

/-- `dynamic_column_time_read`: a `TIME` without date. -/
def timeRead (storeItHere : MysqlTime) (data : List UInt8) : DyncolFuncResult × MysqlTime :=
  timeReadInternal { storeItHere with year := 0, month := 0, day := 0, timeType := .time } data

/-- `dynamic_column_date_time_read`: nine or six bytes, the date in the first three. -/
def dateTimeRead (storeItHere : MysqlTime) (data : List UInt8) : DyncolFuncResult × MysqlTime :=
  if data.length ≠ 9 ∧ data.length ≠ 6 then (.format, { storeItHere with timeType := .error })
  else
    let (rc, value) := dateReadInternal { storeItHere with timeType := .datetime } (data.take 3)
    if rc ≠ .ok then (rc, { value with timeType := .error })
    else
      let (rc, value) := timeReadInternal value (data.drop 3)
      if rc ≠ .ok then (rc, { value with timeType := .error }) else (.ok, value)

/-! ### The values the writers take -/

/-- The ranges `dynamic_column_date_store` asserts. -/
structure DateInRange (value : MysqlTime) : Prop where
  year : value.year ≤ 9999
  month : value.month ≤ 12
  day : value.day ≤ 31

/-- The ranges `dynamic_column_time_store` asserts. -/
structure TimeInRange (value : MysqlTime) : Prop where
  hour : value.hour ≤ 838
  minute : value.minute ≤ 59
  second : value.second ≤ 59
  secondPart : value.secondPart ≤ 999999

/-- A `DATE` in range, without time or sign. -/
structure StorableDate (value : MysqlTime) : Prop extends DateInRange value where
  hour : value.hour = 0
  minute : value.minute = 0
  second : value.second = 0
  secondPart : value.secondPart = 0
  neg : value.neg = false
  timeType : value.timeType = .date

/-- A `TIME` in range, without date. -/
structure StorableTime (value : MysqlTime) : Prop extends TimeInRange value where
  year : value.year = 0
  month : value.month = 0
  day : value.day = 0
  timeType : value.timeType = .time

/-- A `DATETIME` in range. -/
structure StorableDatetime (value : MysqlTime) : Prop
    extends DateInRange value, TimeInRange value where
  timeType : value.timeType = .datetime

/-! ### The bytes as numbers -/

/-- The three bytes of a date in range, its fields at their bits. -/
theorem dateStore_eq {value : MysqlTime} (dated : dateStoreValue value = value)
    (range : DateInRange value) :
    dateStore value = [(value.month % 2 ^ 3 * 2 ^ 5 + value.day).toUInt8,
      (value.year % 2 ^ 7 * 2 ^ 1 + value.month / 2 ^ 3).toUInt8,
      (value.year / 2 ^ 7).toUInt8] := by
  have := range.day
  have := range.month
  simp only [dateStore, dated]
  rw [and_mask_eq_mod value.month 0x7 3 rfl, lor_shiftLeft_eq_add _ 5 (by omega),
    and_mask_eq_mod value.year 0x7F 7 rfl, Nat.shiftRight_eq_div_pow value.month,
    lor_shiftLeft_eq_add _ 1 (by omega), Nat.shiftRight_eq_div_pow]

/-- Three bytes whose fields are a date in range read to that date. -/
theorem dateReadInternal_of_fields (storeItHere : MysqlTime) {b0 b1 b2 : UInt8} {value : MysqlTime}
    (day : b0.toNat % 2 ^ 5 = value.day)
    (month : b1.toNat % 2 ^ 1 * 2 ^ 3 + b0.toNat / 2 ^ 5 = value.month)
    (year : b2.toNat * 2 ^ 7 + b1.toNat / 2 ^ 1 = value.year) (range : DateInRange value) :
    dateReadInternal storeItHere [b0, b1, b2] =
      (.ok, { storeItHere with day := value.day, month := value.month, year := value.year }) := by
  have := b0.toNat_lt
  have := b1.toNat_lt
  simp only [dateReadInternal]
  rw [and_mask_eq_mod b0.toNat 0x1f 5 rfl, and_mask_eq_mod b1.toNat 0x1 1 rfl,
    Nat.shiftRight_eq_div_pow b0.toNat, shiftLeft_lor_eq_add _ 3 (by omega),
    Nat.shiftRight_eq_div_pow b1.toNat, shiftLeft_lor_eq_add _ 7 (by omega), day, month, year,
    if_neg (by have := range.day; have := range.month; have := range.year; omega)]

/-- The six bytes of a time in range, its fields at their bits. -/
theorem timeStore_six {value : MysqlTime} (timed : timeStoreValue value = value)
    (range : TimeInRange value) {format : DyncolFormat}
    (six : format = .num ∨ value.secondPart ≠ 0) :
    timeStore value format = [(value.secondPart % 2 ^ 8).toUInt8,
      (value.secondPart / 2 ^ 8 % 2 ^ 8).toUInt8,
      (value.second % 2 ^ 4 * 2 ^ 4 + value.secondPart / 2 ^ 16 % 2 ^ 4).toUInt8,
      (value.minute * 2 ^ 2 + value.second / 2 ^ 4 % 2 ^ 2).toUInt8,
      (value.hour % 2 ^ 8).toUInt8, (value.neg.toNat * 2 ^ 2 + value.hour / 2 ^ 8).toUInt8] := by
  have := range.hour
  simp only [timeStore, timed, if_pos six]
  rw [and_mask_eq_mod value.secondPart 0xff 8 rfl, and_mask_shiftRight _ 0xff00 8 8 rfl,
    and_mask_eq_mod value.second 0xf 4 rfl, and_mask_shiftRight _ 0xf0000 4 16 rfl,
    shiftLeft_lor_eq_add _ 4 (by omega), and_mask_shiftRight _ 0x30 2 4 rfl,
    shiftLeft_lor_eq_add _ 2 (by omega), and_mask_eq_mod value.hour 0xff 8 rfl,
    Nat.shiftRight_eq_div_pow, flag_lor_eq_add _ 0x4 2 rfl (by omega)]

/-- The three bytes of a time in range without microseconds in the names format. -/
theorem timeStore_three {value : MysqlTime} (timed : timeStoreValue value = value)
    (range : TimeInRange value) {format : DyncolFormat}
    (three : ¬(format = .num ∨ value.secondPart ≠ 0)) :
    timeStore value format = [(value.minute % 2 ^ 2 * 2 ^ 6 + value.second).toUInt8,
      (value.hour % 2 ^ 4 * 2 ^ 4 + value.minute / 2 ^ 2).toUInt8,
      (value.neg.toNat * 2 ^ 7 + value.hour / 2 ^ 4).toUInt8] := by
  have := range.hour
  have := range.minute
  have := range.second
  simp only [timeStore, timed, if_neg three]
  rw [and_mask_eq_mod value.minute 0x3 2 rfl, lor_shiftLeft_eq_add _ 6 (by omega),
    and_mask_eq_mod value.hour 0xf 4 rfl, Nat.shiftRight_eq_div_pow value.minute,
    lor_shiftLeft_eq_add _ 4 (by omega), Nat.shiftRight_eq_div_pow, Nat.lor_comm,
    flag_lor_eq_add _ 0x80 7 rfl (by omega)]

/-- Six bytes whose fields are a time in range read to that time. -/
theorem timeReadInternal_six_of_fields (storeItHere : MysqlTime) {b0 b1 b2 b3 b4 b5 : UInt8}
    {value : MysqlTime}
    (secondPart : b2.toNat % 2 ^ 4 * 2 ^ 16 + (b1.toNat * 2 ^ 8 + b0.toNat) = value.secondPart)
    (second : b3.toNat % 2 ^ 2 * 2 ^ 4 + b2.toNat / 2 ^ 4 = value.second)
    (minute : b3.toNat / 2 ^ 2 = value.minute)
    (hour : b5.toNat % 2 ^ 2 * 2 ^ 8 + b4.toNat = value.hour)
    (neg : decide (b5.toNat / 2 ^ 2 % 2 = 1) = value.neg) (range : TimeInRange value) :
    timeReadInternal storeItHere [b0, b1, b2, b3, b4, b5] =
      (.ok,
        { storeItHere with
          secondPart := value.secondPart, second := value.second, minute := value.minute,
          hour := value.hour, neg := value.neg }) := by
  have := b0.toNat_lt
  have := b1.toNat_lt
  have := b2.toNat_lt
  have := b4.toNat_lt
  simp only [timeReadInternal]
  rw [lor_shiftLeft_eq_add b1.toNat 8 (by omega), and_mask_eq_mod b2.toNat 0xf 4 rfl,
    lor_shiftLeft_eq_add _ 16 (by omega), Nat.shiftRight_eq_div_pow b2.toNat,
    and_mask_eq_mod b3.toNat 0x3 2 rfl, lor_shiftLeft_eq_add _ 4 (by omega),
    Nat.shiftRight_eq_div_pow b3.toNat, and_mask_eq_mod b5.toNat 0x3 2 rfl,
    shiftLeft_lor_eq_add _ 8 (by omega), decide_and_bit_ne_zero b5.toNat 0x4 2 rfl, secondPart,
    second, minute, hour, neg, if_neg (by
      have := range.hour; have := range.minute; have := range.second; have := range.secondPart
      omega)]

/-- Three bytes whose fields are a time in range read to that time without microseconds. -/
theorem timeReadInternal_three_of_fields (storeItHere : MysqlTime) {b0 b1 b2 : UInt8}
    {value : MysqlTime} (second : b0.toNat % 2 ^ 6 = value.second)
    (minute : b1.toNat % 2 ^ 4 * 2 ^ 2 + b0.toNat / 2 ^ 6 = value.minute)
    (hour : b2.toNat % 2 ^ 6 * 2 ^ 4 + b1.toNat / 2 ^ 4 = value.hour)
    (neg : decide (b2.toNat / 2 ^ 7 % 2 = 1) = value.neg) (range : TimeInRange value) :
    timeReadInternal storeItHere [b0, b1, b2] =
      (.ok,
        { storeItHere with
          secondPart := 0, second := value.second, minute := value.minute, hour := value.hour,
          neg := value.neg }) := by
  have := b0.toNat_lt
  have := b1.toNat_lt
  simp only [timeReadInternal]
  rw [and_mask_eq_mod b0.toNat 0x3f 6 rfl, Nat.shiftRight_eq_div_pow b0.toNat,
    and_mask_eq_mod b1.toNat 0xf 4 rfl, lor_shiftLeft_eq_add _ 2 (by omega),
    Nat.shiftRight_eq_div_pow b1.toNat, and_mask_eq_mod b2.toNat 0x3f 6 rfl,
    lor_shiftLeft_eq_add _ 4 (by omega), decide_and_bit_ne_zero b2.toNat 0x80 7 rfl, second,
    minute, hour, neg, if_neg (by
      have := range.hour; have := range.minute; have := range.second
      omega)]

/-! ### Each reader inverts its writer -/

/-- The date of a value in range comes back from its three bytes. -/
theorem dateReadInternal_dateStore (storeItHere : MysqlTime) {value : MysqlTime}
    (dated : dateStoreValue value = value) (range : DateInRange value) :
    dateReadInternal storeItHere (dateStore value) =
      (.ok, { storeItHere with day := value.day, month := value.month, year := value.year }) := by
  have := range.day
  have := range.month
  have := range.year
  rw [dateStore_eq dated range]
  refine dateReadInternal_of_fields storeItHere ?_ ?_ ?_ range
  · simp only [toUInt8_toNat]
    omega
  · simp only [toUInt8_toNat]
    omega
  · simp only [toUInt8_toNat]
    omega

/-- The time of a value in range comes back from its six or three bytes. -/
theorem timeReadInternal_timeStore (storeItHere : MysqlTime) {value : MysqlTime}
    (timed : timeStoreValue value = value) (range : TimeInRange value) (format : DyncolFormat) :
    timeReadInternal storeItHere (timeStore value format) =
      (.ok,
        { storeItHere with
          secondPart := value.secondPart, second := value.second, minute := value.minute,
          hour := value.hour, neg := value.neg }) := by
  have := range.hour
  have := range.minute
  have := range.second
  have := range.secondPart
  have := Bool.toNat_le value.neg
  by_cases six : format = .num ∨ value.secondPart ≠ 0
  · rw [timeStore_six timed range six]
    refine timeReadInternal_six_of_fields storeItHere ?_ ?_ ?_ ?_ ?_ range
    · simp only [toUInt8_toNat]
      omega
    · simp only [toUInt8_toNat]
      omega
    · simp only [toUInt8_toNat]
      omega
    · simp only [toUInt8_toNat]
      omega
    · have byte : value.neg.toNat * 2 ^ 2 + value.hour / 2 ^ 8 < 256 := by omega
      rw [toUInt8_toNat, Nat.mod_eq_of_lt byte, flag_of_bit _ 2 (by omega)]
  · -- the names format without microseconds: three bytes, and the microseconds read as zero
    have noFraction : value.secondPart = 0 := by
      simp only [not_or, not_not] at six
      exact six.2
    rw [timeStore_three timed range six, noFraction]
    refine timeReadInternal_three_of_fields storeItHere ?_ ?_ ?_ ?_ range
    · simp only [toUInt8_toNat]
      omega
    · simp only [toUInt8_toNat]
      omega
    · simp only [toUInt8_toNat]
      omega
    · have byte : value.neg.toNat * 2 ^ 7 + value.hour / 2 ^ 4 < 256 := by omega
      rw [toUInt8_toNat, Nat.mod_eq_of_lt byte, flag_of_bit _ 7 (by omega)]

/-- `dynamic_column_date_read` of the bytes of a `DATE` is the `DATE`. -/
theorem dateRead_dateStore (storeItHere : MysqlTime) {value : MysqlTime}
    (valid : StorableDate value) : dateRead storeItHere (dateStore value) = (.ok, value) := by
  have dated : dateStoreValue value = value := by simp only [dateStoreValue, valid.timeType]
  rw [dateRead, dateReadInternal_dateStore _ dated valid.toDateInRange]
  obtain ⟨year, month, day, hour, minute, second, secondPart, neg, timeType⟩ := value
  obtain ⟨_, rfl, rfl, rfl, rfl, rfl, rfl⟩ := valid
  rfl

/-- `dynamic_column_time_read` of the bytes of a `TIME` is the `TIME`, in both formats. -/
theorem timeRead_timeStore (storeItHere : MysqlTime) {value : MysqlTime} (format : DyncolFormat)
    (valid : StorableTime value) :
    timeRead storeItHere (timeStore value format) = (.ok, value) := by
  have timed : timeStoreValue value = value := by simp only [timeStoreValue, valid.timeType]
  rw [timeRead, timeReadInternal_timeStore _ timed valid.toTimeInRange]
  obtain ⟨year, month, day, hour, minute, second, secondPart, neg, timeType⟩ := value
  obtain ⟨_, rfl, rfl, rfl, rfl⟩ := valid
  rfl

/-- `dynamic_column_date_time_read` of the bytes of a `DATETIME` is the `DATETIME`, in both
formats. -/
theorem dateTimeRead_dateTimeStore (storeItHere : MysqlTime) {value : MysqlTime}
    (format : DyncolFormat) (valid : StorableDatetime value) :
    dateTimeRead storeItHere (dateTimeStore value format) = (.ok, value) := by
  have dated : dateStoreValue value = value := by simp only [dateStoreValue, valid.timeType]
  have timed : timeStoreValue value = value := by simp only [timeStoreValue, valid.timeType]
  have dateLength : (dateStore value).length = 3 := rfl
  have timeLength := timeStore_length value format
  rw [timed] at timeLength
  -- the date is the first three bytes and the time the rest
  have length : ¬((dateTimeStore value format).length ≠ 9 ∧
      (dateTimeStore value format).length ≠ 6) := by
    simp only [dateTimeStore, List.length_append]
    split at timeLength <;> omega
  rw [dateTimeRead, if_neg length,
    dateTimeStore, List.take_left' dateLength, List.drop_left' dateLength]
  simp only [dateReadInternal_dateStore _ dated valid.toDateInRange, ne_eq, not_true_eq_false,
    if_false, timeReadInternal_timeStore _ timed valid.toTimeInRange]
  obtain ⟨year, month, day, hour, minute, second, secondPart, neg, timeType⟩ := value
  obtain ⟨_, _, rfl⟩ := valid
  rfl

/-! ### The scalar encodings round-trip -/

/-- Every `longlong` comes back from its zig-zag bytes and every `ulonglong` from its bytes, as
many as `dynamic_column_sint_bytes` and `dynamic_column_uint_bytes` count (none for `0`); every
`ulonglong` comes back from its seven-bit bytes, whatever follows them, with their count
`dynamic_column_var_uint_bytes`; and every date, time and datetime the writers take comes back
from its three, six or three, and nine or six bytes, in both formats. -/
theorem dyncol_scalars_round_trip :
    (∀ val : ℤ, IsLonglong val →
      (sintStore val).length = sintBytes val ∧ sintRead (sintStore val) = val) ∧
    (∀ val : ℕ, val ≤ ulonglongMax →
      (uintStore val).length = uintBytes val ∧ uintRead (uintStore val) = val) ∧
    uintStore 0 = [] ∧ uintBytes 0 = 0 ∧
    (∀ (val : ℕ) (rest : List UInt8), val ≤ ulonglongMax →
      varUintGet (varUintStore val ++ rest) = (val, varUintBytes val) ∧
        (varUintStore val).length = varUintBytes val) ∧
    (∀ storeItHere value : MysqlTime, StorableDate value →
      (dateStore value).length = 3 ∧ dateRead storeItHere (dateStore value) = (.ok, value)) ∧
    (∀ (storeItHere value : MysqlTime) (format : DyncolFormat), StorableTime value →
      (timeStore value format).length =
          (if format = .num ∨ value.secondPart ≠ 0 then 6 else 3) ∧
        timeRead storeItHere (timeStore value format) = (.ok, value)) ∧
    (∀ (storeItHere value : MysqlTime) (format : DyncolFormat), StorableDatetime value →
      (dateTimeStore value format).length =
          (if format = .num ∨ value.secondPart ≠ 0 then 9 else 6) ∧
        dateTimeRead storeItHere (dateTimeStore value format) = (.ok, value)) := by
  refine ⟨fun val isLonglong => sintStore_spec isLonglong, fun val small => uintStore_spec small,
    rfl, uintBytes_zero, fun val rest small => varUintStore_spec small rest,
    fun storeItHere value valid => ⟨rfl, dateRead_dateStore storeItHere valid⟩, ?_, ?_⟩
  · intro storeItHere value format valid
    have timed : timeStoreValue value = value := by simp only [timeStoreValue, valid.timeType]
    refine ⟨?_, timeRead_timeStore storeItHere format valid⟩
    rw [timeStore_length, timed]
  · intro storeItHere value format valid
    have timed : timeStoreValue value = value := by simp only [timeStoreValue, valid.timeType]
    refine ⟨?_, dateTimeRead_dateTimeStore storeItHere format valid⟩
    rw [dateTimeStore, List.length_append, timeStore_length, timed]
    split <;> rfl

/-- The limits and some of the values of the unit test `ma_dyncol-t`: `LONGLONG_MIN`,
`ULONGLONG_MAX`, a character set number of three seven-bit bytes, `2011-03-26`, `21:36:20.000028`
and `2011-03-26 21:53:12.003445`. -/
theorem dyncol_scalars_round_trip_unit_tests :
    ((sintStore Sql.longlongMin).length = sintBytes Sql.longlongMin ∧
      sintRead (sintStore Sql.longlongMin) = Sql.longlongMin) ∧
    ((uintStore ulonglongMax).length = uintBytes ulonglongMax ∧
      uintRead (uintStore ulonglongMax) = ulonglongMax) ∧
    (varUintGet (varUintStore 0x100000 ++ [0x31]) = (0x100000, varUintBytes 0x100000) ∧
      (varUintStore 0x100000).length = varUintBytes 0x100000) ∧
    ((dateStore ⟨2011, 3, 26, 0, 0, 0, 0, false, .date⟩).length = 3 ∧
      dateRead ⟨2011, 3, 26, 0, 0, 0, 0, false, .date⟩
          (dateStore ⟨2011, 3, 26, 0, 0, 0, 0, false, .date⟩) =
        (.ok, ⟨2011, 3, 26, 0, 0, 0, 0, false, .date⟩)) ∧
    ((timeStore ⟨0, 0, 0, 21, 36, 20, 28, false, .time⟩ .str).length =
        (if DyncolFormat.str = .num ∨ 28 ≠ 0 then 6 else 3) ∧
      timeRead ⟨0, 0, 0, 21, 36, 20, 28, false, .time⟩
          (timeStore ⟨0, 0, 0, 21, 36, 20, 28, false, .time⟩ .str) =
        (.ok, ⟨0, 0, 0, 21, 36, 20, 28, false, .time⟩)) ∧
    ((dateTimeStore ⟨2011, 3, 26, 21, 53, 12, 3445, false, .datetime⟩ .num).length =
        (if DyncolFormat.num = .num ∨ 3445 ≠ 0 then 9 else 6) ∧
      dateTimeRead ⟨2011, 3, 26, 21, 53, 12, 3445, false, .datetime⟩
          (dateTimeStore ⟨2011, 3, 26, 21, 53, 12, 3445, false, .datetime⟩ .num) =
        (.ok, ⟨2011, 3, 26, 21, 53, 12, 3445, false, .datetime⟩)) :=
  ⟨dyncol_scalars_round_trip.1 _ (by decide),
    dyncol_scalars_round_trip.2.1 _ (le_refl _),
    dyncol_scalars_round_trip.2.2.2.2.1 _ _ (by decide),
    dyncol_scalars_round_trip.2.2.2.2.2.1 _ _
      ⟨⟨by decide, by decide, by decide⟩, rfl, rfl, rfl, rfl, rfl, rfl⟩,
    dyncol_scalars_round_trip.2.2.2.2.2.2.1 _ _ _
      ⟨⟨by decide, by decide, by decide, by decide⟩, rfl, rfl, rfl, rfl⟩,
    dyncol_scalars_round_trip.2.2.2.2.2.2.2 _ _ _
      ⟨⟨by decide, by decide, by decide⟩, ⟨by decide, by decide, by decide, by decide⟩,
        rfl⟩⟩

end MariaDB.Dyncol
