/-
`pack_time`, `unpack_time` and `my_time_compare` of `sql/sql_time.cc`.

`pack_time` writes the fields of a `MYSQL_TIME` as one number in the mixed radices 13, 32, 24,
60, 60 and `10 ^ 6` under the year, in `ulonglong`, and negates it for a negative `TIME`;
`unpack_time` takes the fields back off with `%` and `/`, and for a `TIME` folds the days and
months into the hours. `my_time_compare` compares two packed numbers after converting them to
`ulonglong`.

With the fields in range the number is the mixed-radix numeral of `Positional`, so unpacking
gives the fields back and two date-times compare as their fields do, lexicographically. A
negative `TIME` packs to a negative `longlong`, which the conversion to `ulonglong` puts above
every non-negative one: `my_time_compare` orders two `TIME`s of one sign by their values and
two of opposite signs the wrong way round.
-/

import MariaDB.Temporal.Datetime
import MariaDB.Sql.IntArith

namespace MariaDB.Temporal

open Decimal (signed)
open Positional (ofDigits digits Bounded)

/-! ### The functions -/

/-- The number `pack_time` builds before the sign: the fields in the mixed radices 13, 32, 24,
60, 60 and `10 ^ 6`, the year on top. -/
def packMagnitude (myTime : MysqlTime) : ℕ :=
  (((((myTime.year * 13 + myTime.month) * 32 + myTime.day) * 24 + myTime.hour) * 60 +
    myTime.minute) * 60 + myTime.second) * 1000000 + myTime.secondPart

/-- `pack_time`. The product is computed in `ulonglong`, where the factor `-1` of a negative
time is `ULONGLONG_MAX`, and returned as a `longlong`: only its residue modulo `2 ^ 64`
counts. -/
def packTime (myTime : MysqlTime) : ℤ :=
  toLonglong (signed myTime.neg (packMagnitude myTime))

/-- The `get_one` steps of `unpack_time` on the magnitude of the packed number: each field is
the rest modulo its radix, the microseconds first, and the year is what is left, as a
`uint`. -/
def unpackFields (magnitude : ℕ) (neg : Bool) (tsType : TimestampType) : MysqlTime where
  year := magnitude / 1000000 / 60 / 60 / 24 / 32 / 13 % 2 ^ 32
  month := magnitude / 1000000 / 60 / 60 / 24 / 32 % 13
  day := magnitude / 1000000 / 60 / 60 / 24 % 32
  hour := magnitude / 1000000 / 60 / 60 % 24
  minute := magnitude / 1000000 / 60 % 60
  second := magnitude / 1000000 % 60
  secondPart := magnitude % 1000000
  neg := neg
  timeType := tsType

/-- The `switch` on the type at the end of `unpack_time`. -/
def unpackTimeType : TimestampType → MysqlTime → MysqlTime
  | .time, myTime =>
    { myTime with
      hour := myTime.hour + (myTime.month * 32 + myTime.day) * 24
      month := 0
      day := 0 }
  | .date, myTime => { myTime with hour := 0, minute := 0, second := 0, secondPart := 0 }
  -- `NONE` and `ERROR` assert and fall through to `DATETIME`, which keeps every field
  | .datetime, myTime | .none, myTime | .error, myTime => myTime

/-- `unpack_time`. The magnitude of `LONGLONG_MIN`, which `packed= -packed` leaves negative, is
`2 ^ 63` as the `ulonglong` `%` and `/` of the first `get_one` see it. -/
def unpackTime (packed : ℤ) (tsType : TimestampType) : MysqlTime :=
  unpackTimeType tsType (unpackFields packed.natAbs (decide (packed < 0)) tsType)

/-- `my_time_compare`: the packed numbers compared as `ulonglong`s. -/
def myTimeCompare (a b : MysqlTime) : ℤ :=
  if Sql.toULonglong (packTime a) < Sql.toULonglong (packTime b) then -1
  else if Sql.toULonglong (packTime a) > Sql.toULonglong (packTime b) then 1
  else 0

/-! ### What the numbers stand for -/

/-- The radices of `pack_time`, most significant first; the year's is that of the `uint` it is
read back into. -/
def packRadices : List ℕ := [2 ^ 32, 13, 32, 24, 60, 60, 1000000]

/-- The fields of a `MYSQL_TIME` in the order `pack_time` writes them. -/
def packFields (t : MysqlTime) : List ℕ :=
  [t.year, t.month, t.day, t.hour, t.minute, t.second, t.secondPart]

/-- The value of a `TIME` in microseconds, with the days folded into the hours: negative when
`neg` is set. -/
def timeValue (t : MysqlTime) : ℤ :=
  signed t.neg ((((t.day * 24 + t.hour) * 60 + t.minute) * 60 + t.second) * 1000000 + t.secondPart)

/-- Two times with the same fields, sign and type are the same. -/
theorem eq_of_packFields {t t' : MysqlTime} (fields : packFields t = packFields t')
    (neg : t.neg = t'.neg) (timeType : t.timeType = t'.timeType) : t = t' := by
  rcases t with ⟨year, month, day, hour, minute, second, secondPart, _, _⟩
  rcases t' with ⟨year', month', day', hour', minute', second', secondPart', _, _⟩
  simp only [packFields, List.cons.injEq] at fields
  obtain ⟨rfl, rfl, rfl, rfl, rfl, rfl, rfl, -⟩ := fields
  simp only at neg timeType
  rw [neg, timeType]

theorem natAbs_signed (neg : Bool) (n : ℕ) : (signed neg n).natAbs = n := by
  cases neg
  · rw [signed, if_neg Bool.false_ne_true, Int.natAbs_natCast]
  · rw [signed, if_pos rfl, Int.natAbs_neg, Int.natAbs_natCast]

/-! ### Packing and unpacking -/

theorem packMagnitude_eq_ofDigits (t : MysqlTime) :
    packMagnitude t = ofDigits packRadices (packFields t) := by
  simp only [packMagnitude, packRadices, packFields, Positional.ofDigits_cons,
    Positional.ofDigits_nil, List.prod_cons, List.prod_nil]
  ring

/-- Below `2 ^ 63` the `longlong` of `pack_time` is the signed magnitude. -/
theorem packTime_of_lt {t : MysqlTime} (small : packMagnitude t < 2 ^ 63) :
    packTime t = signed t.neg (packMagnitude t) := by
  have bounds := signed_bounds t.neg (packMagnitude t)
  exact toLonglong_of_lt (by omega) (by omega)

/-- `get_one` reads the digits of the magnitude in the radices of `pack_time`. -/
theorem packFields_unpackFields (magnitude : ℕ) (neg : Bool) (tsType : TimestampType) :
    packFields (unpackFields magnitude neg tsType) = digits packRadices magnitude := by
  simp only [packFields, unpackFields, packRadices, Positional.digits_cons,
    Positional.digits_nil, List.prod_cons, List.prod_nil, List.cons.injEq, Nat.div_div_eq_div_mul,
    Nat.reduceMul, Nat.reducePow, Nat.div_one, true_and, and_true]
  -- each digit: the rest of the earlier `%` steps, divided by its own place
  refine ⟨?_, ?_, ?_, ?_, ?_, ?_⟩ <;> omega

/-- Unpacking a signed magnitude: its fields, and the sign unless the magnitude is zero. -/
theorem unpackTime_signed (neg : Bool) (magnitude : ℕ) (tsType : TimestampType) :
    unpackTime (signed neg magnitude) tsType =
      unpackTimeType tsType (unpackFields magnitude (neg && magnitude != 0) tsType) := by
  rw [unpackTime, natAbs_signed, neg_signed]

/-! ### Date-times -/

section Datetime

variable {dec : ℕ} {t : MysqlTime}

/-- The fields of a valid `DATETIME` are digits in the radices of `pack_time`. -/
theorem ValidDatetime.bounded (valid : ValidDatetime dec t) : Bounded packRadices (packFields t) := by
  have year := valid.year
  have month := valid.month
  have day := valid.day
  have hour := valid.hour
  have minute := valid.minute
  have second := valid.second
  have secondPart := valid.secondPart
  simp only [packRadices, packFields, Positional.bounded_cons]
  exact ⟨by omega, by omega, by omega, by omega, by omega, by omega, by omega, trivial⟩

theorem ValidDatetime.packMagnitude_lt (valid : ValidDatetime dec t) : packMagnitude t < 2 ^ 63 := by
  have year := valid.year
  have month := valid.month
  have day := valid.day
  have hour := valid.hour
  have minute := valid.minute
  have second := valid.second
  have secondPart := valid.secondPart
  rw [packMagnitude]
  omega

theorem packTime_datetime (valid : ValidDatetime dec t) : packTime t = packMagnitude t := by
  rw [packTime_of_lt valid.packMagnitude_lt, valid.neg]
  rfl

/-- A valid `DATETIME` unpacks to itself. -/
theorem unpackTime_packTime_datetime (valid : ValidDatetime dec t) :
    unpackTime (packTime t) .datetime = t := by
  rw [packTime_of_lt valid.packMagnitude_lt, unpackTime_signed, valid.neg, Bool.false_and]
  apply eq_of_packFields
  · rw [unpackTimeType, packFields_unpackFields, packMagnitude_eq_ofDigits,
      Positional.digits_ofDigits valid.bounded]
  · exact valid.neg.symm
  · exact valid.timeType.symm

end Datetime

/-! ### Times -/

section Time

variable {dec : ℕ} {t : MysqlTime}

/-- The digits of a valid `TIME` in the radices of `pack_time`: its hours, with the days folded
in, carry into the days and the months. -/
theorem ValidTime.packMagnitude_eq (valid : ValidTime dec t) :
    packMagnitude t = ofDigits packRadices
      [0, (t.day * 24 + t.hour) / 24 / 32, (t.day * 24 + t.hour) / 24 % 32,
        (t.day * 24 + t.hour) % 24, t.minute, t.second, t.secondPart] := by
  simp only [packMagnitude, packRadices, valid.year, valid.month, Positional.ofDigits_cons,
    Positional.ofDigits_nil, List.prod_cons, List.prod_nil, Nat.reduceMul]
  omega

theorem ValidTime.bounded (valid : ValidTime dec t) :
    Bounded packRadices
      [0, (t.day * 24 + t.hour) / 24 / 32, (t.day * 24 + t.hour) / 24 % 32,
        (t.day * 24 + t.hour) % 24, t.minute, t.second, t.secondPart] := by
  have hours := valid.hours
  have minute := valid.minute
  have second := valid.second
  have secondPart := valid.secondPart
  simp only [packRadices, Positional.bounded_cons]
  exact ⟨by omega, by omega, by omega, by omega, by omega, by omega, by omega, trivial⟩

theorem ValidTime.packMagnitude_lt (valid : ValidTime dec t) : packMagnitude t < 2 ^ 63 := by
  have hours := valid.hours
  have minute := valid.minute
  have second := valid.second
  have secondPart := valid.secondPart
  rw [packMagnitude, valid.year, valid.month]
  omega

/-- A valid `TIME` unpacks to itself with the days folded into the hours, and without the sign
of a negative zero. -/
theorem unpackTime_packTime_time (valid : ValidTime dec t) :
    unpackTime (packTime t) .time = foldTime t := by
  have hours := valid.hours
  have fields : packFields (unpackFields (packMagnitude t) (t.neg && packMagnitude t != 0) .time) =
      [0, (t.day * 24 + t.hour) / 24 / 32, (t.day * 24 + t.hour) / 24 % 32,
        (t.day * 24 + t.hour) % 24, t.minute, t.second, t.secondPart] := by
    rw [packFields_unpackFields, valid.packMagnitude_eq, Positional.digits_ofDigits valid.bounded]
  rw [packTime_of_lt valid.packMagnitude_lt, unpackTime_signed]
  apply eq_of_packFields
  · simp only [packFields, List.cons.injEq] at fields
    obtain ⟨year, month, day, hour, minute, second, secondPart, -⟩ := fields
    -- the hours come back from the carried days and months
    simp only [unpackTimeType, foldTime, packFields, year, month, day, hour, minute, second,
      secondPart, valid.year, valid.month, List.cons.injEq, and_true, true_and]
    omega
  · simp only [unpackTimeType, unpackFields, foldTime]
    congr 1
    rw [Bool.eq_iff_iff, bne_iff_ne, bne_iff_ne, packMagnitude, valid.year, valid.month]
    omega
  · exact valid.timeType.symm

/-- A valid `TIME` packs to its value. -/
theorem ValidTime.packTime_eq (valid : ValidTime dec t) : packTime t = timeValue t := by
  rw [packTime_of_lt valid.packMagnitude_lt, timeValue, packMagnitude, valid.year, valid.month]
  simp only [Nat.zero_mul, Nat.zero_add]

theorem ValidTime.timeValue_isLonglong (valid : ValidTime dec t) : Sql.IsLonglong (timeValue t) := by
  have small := valid.packMagnitude_lt
  rw [← valid.packTime_eq, packTime_of_lt small]
  have bounds := signed_bounds t.neg (packMagnitude t)
  exact ⟨by omega, by omega⟩

/-- `unpack_time` gives back what `pack_time` packed: a valid `DATETIME` whole, and a valid
`TIME` with its days folded into the hours and without the sign of a negative zero. -/
theorem pack_time_round_trip {dec : ℕ} {t : MysqlTime} :
    (ValidDatetime dec t → unpackTime (packTime t) .datetime = t) ∧
      (ValidTime dec t → unpackTime (packTime t) .time = foldTime t) :=
  ⟨unpackTime_packTime_datetime, unpackTime_packTime_time⟩

/-- `2024-02-29 23:59:59.5` and `-1 12:00:00` (a day and twelve hours, negative). -/
theorem pack_time_round_trip_leap_day_and_negative_time :
    unpackTime (packTime ⟨2024, 2, 29, 23, 59, 59, 500000, false, .datetime⟩) .datetime =
        ⟨2024, 2, 29, 23, 59, 59, 500000, false, .datetime⟩ ∧
      unpackTime (packTime ⟨0, 0, 1, 12, 0, 0, 0, true, .time⟩) .time =
        foldTime ⟨0, 0, 1, 12, 0, 0, 0, true, .time⟩ :=
  ⟨(@pack_time_round_trip 6 _).1
      ⟨by decide, by decide, by decide, by decide, by decide, by decide, by decide, by decide,
        rfl, rfl⟩,
    (@pack_time_round_trip 6 _).2
      ⟨rfl, rfl, by decide, by decide, by decide, by decide, by decide, rfl⟩⟩

end Time

/-! ### Comparison -/

/-- `my_time_compare` compares the packed numbers as `ulonglong`s. -/
theorem compare_myTimeCompare (a b : MysqlTime) :
    compare (myTimeCompare a b) 0 =
      compare (Sql.toULonglong (packTime a)) (Sql.toULonglong (packTime b)) := by
  rw [myTimeCompare, Nat.compare_eq_ite_lt]
  split_ifs <;> rfl

/-- Two valid date-times compare as their fields, lexicographically. -/
theorem compare_myTimeCompare_datetime {decA decB : ℕ} {a b : MysqlTime}
    (validA : ValidDatetime decA a) (validB : ValidDatetime decB b) :
    compare (myTimeCompare a b) 0 = compare (packFields a) (packFields b) := by
  have smallA := validA.packMagnitude_lt
  have smallB := validB.packMagnitude_lt
  have castA := Sql.toULonglong_of_lt (Int.natCast_nonneg (packMagnitude a)) (by omega)
  have castB := Sql.toULonglong_of_lt (Int.natCast_nonneg (packMagnitude b)) (by omega)
  rw [compare_myTimeCompare, packTime_datetime validA, packTime_datetime validB,
    Int.ofNat_inj.mp castA, Int.ofNat_inj.mp castB,
    Positional.compare_of_bounded validA.bounded validB.bounded, packMagnitude_eq_ofDigits,
    packMagnitude_eq_ofDigits]

/-- Two valid times compare by their values when they have one sign, and the other way round
when they have opposite signs. -/
theorem compare_myTimeCompare_time {decA decB : ℕ} {a b : MysqlTime}
    (validA : ValidTime decA a) (validB : ValidTime decB b) :
    compare (myTimeCompare a b) 0 =
      if decide (timeValue a < 0) = decide (timeValue b < 0) then
        compare (timeValue a) (timeValue b)
      else compare (timeValue b) (timeValue a) := by
  rw [compare_myTimeCompare, validA.packTime_eq, validB.packTime_eq]
  exact Sql.compare_toULonglong validA.timeValue_isLonglong validB.timeValue_isLonglong

/-- `2024-02-29 23:59:59` comes after `2024-02-29 12:00:00.999999`. -/
theorem compare_myTimeCompare_datetime_same_day :
    compare (myTimeCompare ⟨2024, 2, 29, 23, 59, 59, 0, false, .datetime⟩
        ⟨2024, 2, 29, 12, 0, 0, 999999, false, .datetime⟩) 0 =
      compare (packFields ⟨2024, 2, 29, 23, 59, 59, 0, false, .datetime⟩)
        (packFields ⟨2024, 2, 29, 12, 0, 0, 999999, false, .datetime⟩) :=
  @compare_myTimeCompare_datetime 0 6 _ _
    ⟨by decide, by decide, by decide, by decide, by decide, by decide, by decide, by decide, rfl,
      rfl⟩
    ⟨by decide, by decide, by decide, by decide, by decide, by decide, by decide, by decide, rfl,
      rfl⟩

theorem myTimeCompare_eq_one {a b : MysqlTime} (above : compare (myTimeCompare a b) 0 = .gt) :
    myTimeCompare a b = 1 := by
  rw [Int.compare_eq_gt] at above
  rw [myTimeCompare] at above ⊢
  split_ifs at above ⊢ <;> omega

theorem myTimeCompare_eq_neg_one {a b : MysqlTime} (below : compare (myTimeCompare a b) 0 = .lt) :
    myTimeCompare a b = -1 := by
  rw [Int.compare_eq_lt] at below
  rw [myTimeCompare] at below ⊢
  split_ifs at below ⊢ <;> omega

theorem myTimeCompare_negative_time {decA decB : ℕ} {a b : MysqlTime}
    (validA : ValidTime decA a) (validB : ValidTime decB b) (negative : timeValue a < 0)
    (nonnegative : 0 ≤ timeValue b) :
    timeValue a < timeValue b ∧ myTimeCompare a b = 1 ∧ myTimeCompare b a = -1 := by
  have signs : decide (timeValue a < 0) ≠ decide (timeValue b < 0) := by
    simp [negative, not_lt.mpr nonnegative]
  have forward := compare_myTimeCompare_time validA validB
  have backward := compare_myTimeCompare_time validB validA
  have less : timeValue a < timeValue b := by omega
  rw [if_neg signs, Int.compare_eq_gt.mpr less] at forward
  rw [if_neg (Ne.symm signs), Int.compare_eq_lt.mpr less] at backward
  exact ⟨less, myTimeCompare_eq_one forward, myTimeCompare_eq_neg_one backward⟩

theorem myTimeCompare_negative_time_second :
    timeValue ⟨0, 0, 0, 0, 0, 1, 0, true, .time⟩ < timeValue ⟨0, 0, 0, 0, 0, 1, 0, false, .time⟩ ∧
      myTimeCompare ⟨0, 0, 0, 0, 0, 1, 0, true, .time⟩ ⟨0, 0, 0, 0, 0, 1, 0, false, .time⟩ = 1 ∧
      myTimeCompare ⟨0, 0, 0, 0, 0, 1, 0, false, .time⟩ ⟨0, 0, 0, 0, 0, 1, 0, true, .time⟩ = -1 :=
  @myTimeCompare_negative_time 6 6 _ _
    ⟨rfl, rfl, by decide, by decide, by decide, by decide, by decide, rfl⟩
    ⟨rfl, rfl, by decide, by decide, by decide, by decide, by decide, rfl⟩ (by decide) (by decide)

end MariaDB.Temporal
