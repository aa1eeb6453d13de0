/-
The MySQL 5.6 temporal formats of `sql/compat56.cc`: the packed numbers of `TIME` and
`DATETIME` values, and the strings that `TIME`, `DATETIME` and `TIMESTAMP` columns store.

A `TIME` packs its hours, with the days folded in, its minutes and its seconds into one number
shifted left by 24 bits, with the microseconds below; a negative time is the negated number.
A `DATETIME` packs `year * 13 + month`, the day, hours, minutes and seconds the same way. On
disk the integer part is written with an offset, so that every string is unsigned, and the
fraction follows in one, two or three bytes by the precision; a `TIMESTAMP` is the seconds of
a `timeval` in four bytes with its microseconds after. Bytes are natural numbers below `256`
and the packed numbers are integers: C's `>>` on a signed number is a floor division, its `%`
and `/` truncate towards zero, and the unsigned arithmetic of `MY_PACKED_TIME_MAKE` wraps.
-/

import MariaDB.Decimal.BinFormat
import MariaDB.Library.BitFields

namespace MariaDB.Temporal

open BitFields (shiftLeft_lor_eq_add)

/-! ### Values -/

/-- `enum enum_mysql_timestamp_type`. -/
inductive TimestampType
  | none
  | error
  | date
  | datetime
  | time
  deriving DecidableEq, Repr

/-- `MYSQL_TIME`. -/
structure MysqlTime where
  year : ℕ
  month : ℕ
  day : ℕ
  hour : ℕ
  minute : ℕ
  second : ℕ
  secondPart : ℕ
  neg : Bool
  timeType : TimestampType
  deriving DecidableEq, Repr

/-- `struct timeval`. -/
structure Timeval where
  tvSec : ℤ
  tvUsec : ℤ
  deriving DecidableEq, Repr

/-! ### Bytes and machine integers -/

/-- `mi_uint<width>korr`: `width` bytes, most significant first. -/
def uintKorr (width : ℕ) (bytes : List ℕ) : ℕ := Positional.value 256 (bytes.take width)

/-- `mi_int<width>store`: the low `width` bytes of the two's complement of `x`, most
significant first. -/
def intStore (width : ℕ) (x : ℤ) : List ℕ := Positional.bytes width (x % 256 ^ width).toNat

/-- `(unsigned char) (char) x`. -/
def toUchar (x : ℤ) : ℕ := (x % 256).toNat

/-- `(signed char)` of a byte. -/
def toSchar (byte : ℕ) : ℤ := if 128 ≤ byte then byte - 256 else byte

/-- An unsigned 64-bit result taken back as a `longlong`. -/
def toLonglong (x : ℤ) : ℤ := (x + 2 ^ 63) % 2 ^ 64 - 2 ^ 63

/-- The number `mi_int<width>store` writes the bytes of. -/
theorem toNat_emod_lt (width : ℕ) (x : ℤ) : (x % 256 ^ width).toNat < 256 ^ width := by
  have positive : (0 : ℤ) < 256 ^ width := by positivity
  have upper := Int.emod_lt_of_pos x positive
  have lower := Int.emod_nonneg x positive.ne'
  zify
  rw [Int.toNat_of_nonneg lower]
  exact upper

/-- Reading the bytes `mi_int<width>store` wrote gives the number modulo `256 ^ width`. -/
theorem uintKorr_intStore (width : ℕ) (x : ℤ) (rest : List ℕ) :
    uintKorr width (intStore width x ++ rest) = (x % 256 ^ width).toNat := by
  rw [uintKorr, intStore, List.take_left' (Positional.length_bytes _ _), Positional.value_bytes,
    Nat.mod_eq_of_lt (toNat_emod_lt width x)]

/-- Two stores of one width compare as the numbers they write. -/
theorem compare_intStore (width : ℕ) (x y : ℤ) :
    compare (intStore width x) (intStore width y) =
      compare (x % 256 ^ width).toNat (y % 256 ^ width).toNat :=
  Positional.compare_bytes width _ _ (toNat_emod_lt width x) (toNat_emod_lt width y)

/-- Numbers stored with an offset that makes them non-negative compare as the numbers. -/
theorem compare_offset {offset modulus x y : ℤ} (low : 0 ≤ offset + x) (high : offset + x < modulus)
    (low' : 0 ≤ offset + y) (high' : offset + y < modulus) :
    compare ((offset + x) % modulus).toNat ((offset + y) % modulus).toNat = compare x y := by
  rw [Int.emod_eq_of_lt low high, Int.emod_eq_of_lt low' high']
  rcases lt_trichotomy x y with less | same | greater
  · rw [compare_lt_iff_lt.mpr less, compare_lt_iff_lt.mpr (by omega)]
  · rw [same, compare_eq_iff_eq.mpr rfl, compare_eq_iff_eq.mpr rfl]
  · rw [compare_gt_iff_gt.mpr greater, compare_gt_iff_gt.mpr (by omega)]

@[simp] theorem length_intStore (width : ℕ) (x : ℤ) : (intStore width x).length = width :=
  Positional.length_bytes _ _

/-- A byte written by a cast is a store of one byte. -/
theorem intStore_one (x : ℤ) : intStore 1 x = [toUchar x] := by
  rw [intStore, Positional.bytes_succ, Positional.bytes_zero_width, toUchar, pow_one, pow_zero,
    Nat.div_one]
  have lower := Int.emod_nonneg x (by norm_num : (256 : ℤ) ≠ 0)
  have upper := Int.emod_lt_of_pos x (by norm_num : (0 : ℤ) < 256)
  rw [Nat.mod_eq_of_lt (by omega)]

/-- A byte read at an index is a read of one byte there. -/
theorem getD_eq_uintKorr (ptr : List ℕ) (i : ℕ) : ptr.getD i 0 = uintKorr 1 (ptr.drop i) := by
  rcases Nat.lt_or_ge i ptr.length with inside | outside
  · rw [List.getD_eq_getElem _ _ inside, uintKorr, List.drop_eq_getElem_cons inside,
      List.take_succ_cons, List.take_zero, Positional.value_cons]
    simp
  · rw [List.getD_eq_default _ _ outside, List.drop_eq_nil_of_le outside]
    rfl

theorem toNat_natCast_emod {n width : ℕ} (small : n < 256 ^ width) :
    ((n : ℤ) % 256 ^ width).toNat = n := by
  rw [Int.emod_eq_of_lt (Int.natCast_nonneg n) (by exact_mod_cast small), Int.toNat_natCast]

/-- A number stored with an offset, followed by a code, compares as the pair of the number and
the code. -/
theorem compare_offset_code (width width' : ℕ) {offset q q' : ℤ} {code code' : ℕ}
    (low : 0 ≤ offset + q) (high : offset + q < 256 ^ width) (low' : 0 ≤ offset + q')
    (high' : offset + q' < 256 ^ width) (codeSmall : code < 256 ^ width')
    (codeSmall' : code' < 256 ^ width') :
    compare (intStore width (offset + q) ++ intStore width' code)
        (intStore width (offset + q') ++ intStore width' code') =
      (compare q q').then (compare code code') := by
  rw [Positional.compare_append _ _ _ _ (by rw [length_intStore, length_intStore]),
    compare_intStore, compare_intStore, compare_offset low high low' high',
    toNat_natCast_emod codeSmall, toNat_natCast_emod codeSmall']

/-- A signed read of the bytes of a number that leaves the top bit clear is the number. -/
theorem sintKorr_intStore (width n : ℕ) (rest : List ℕ) (small : n < 128 * 256 ^ width) :
    Decimal.sintKorr (width + 1) (intStore (width + 1) n ++ rest) = n := by
  have fits : n < 256 ^ (width + 1) := by rw [Nat.pow_succ]; omega
  have unsigned := uintKorr_intStore (width + 1) n rest
  rw [toNat_natCast_emod fits] at unsigned
  have head : (intStore (width + 1) n ++ rest).headD 0 < 128 := by
    have high : n / 256 ^ width < 128 := Nat.div_lt_of_lt_mul (by rw [Nat.mul_comm]; exact small)
    rw [intStore, toNat_natCast_emod fits, Positional.bytes_succ, List.cons_append,
      List.headD_cons, Nat.mod_eq_of_lt (by omega)]
    exact high
  rw [Decimal.sintKorr, if_neg (by omega)]
  exact_mod_cast unsigned

/-! ### C arithmetic on signed magnitudes -/

open Decimal (signed)

theorem toLonglong_of_lt {x : ℤ} (low : -2 ^ 63 ≤ x) (high : x < 2 ^ 63) : toLonglong x = x := by
  rw [toLonglong]
  omega

theorem signed_bounds (neg : Bool) (n : ℕ) : -(n : ℤ) ≤ signed neg n ∧ signed neg n ≤ n := by
  cases neg
  · rw [signed, if_neg Bool.false_ne_true]
    omega
  · rw [signed, if_pos rfl]
    omega

theorem signed_mul (neg : Bool) (n m : ℕ) : signed neg (n * m) = signed neg n * m := by
  cases neg
  · rw [signed, if_neg Bool.false_ne_true, signed, if_neg Bool.false_ne_true, Nat.cast_mul]
  · rw [signed, if_pos rfl, signed, if_pos rfl, Nat.cast_mul, neg_mul]

/-- The magnitude `TIME_from_longlong_time_packed` and `TIME_from_longlong_datetime_packed`
take of a signed number. -/
theorem magnitude_signed (neg : Bool) (n : ℕ) :
    (if decide (signed neg n < 0) = true then -signed neg n else signed neg n) = n := by
  cases neg
  · rw [signed, if_neg Bool.false_ne_true, decide_eq_false (by omega)]
    rfl
  · simp only [signed, if_pos, decide_eq_true_eq]
    split_ifs <;> omega

/-- The sign they read: a negative zero is not negative. -/
theorem neg_signed (neg : Bool) (n : ℕ) : decide (signed neg n < 0) = (neg && n != 0) := by
  cases neg
  · rw [signed, if_neg Bool.false_ne_true]
    simp
  · rw [signed, if_pos rfl, Bool.true_and]
    rcases Nat.eq_zero_or_pos n with zero | positive
    · subst zero
      rfl
    · rw [decide_eq_true (by omega), eq_comm, bne_iff_ne]
      omega

/-- C's division of a non-negative number. -/
theorem tdiv_natCast (n d : ℕ) : (n : ℤ).tdiv d = ((n / d : ℕ) : ℤ) := by
  rw [Int.tdiv_eq_ediv_of_nonneg (Int.natCast_nonneg n), Int.natCast_div]

theorem tdiv_ofNat (n d : ℕ) [d.AtLeastTwo] :
    (n : ℤ).tdiv (OfNat.ofNat d) = ((n / OfNat.ofNat d : ℕ) : ℤ) :=
  tdiv_natCast n d

/-- C's division truncates towards zero: it divides the magnitude and keeps the sign. -/
theorem tdiv_signed (neg : Bool) (n d : ℕ) : (signed neg n).tdiv d = signed neg (n / d) := by
  cases neg
  · rw [signed, if_neg Bool.false_ne_true, tdiv_natCast, signed, if_neg Bool.false_ne_true]
  · rw [signed, if_pos rfl, Int.neg_tdiv, tdiv_natCast, signed, if_pos rfl]

/-- The two's complement of a negative number below the modulus. -/
theorem emod_neg_of_lt {m modulus : ℤ} (positive : 0 < m) (small : m < modulus) :
    -m % modulus = modulus - m := by
  have shifted : -m = (modulus - m) + (-1) * modulus := by ring
  rw [shifted, Int.add_mul_emod_self_right, Int.emod_eq_of_lt (by omega) (by omega)]

/-- The `hms` field of both packed formats. -/
theorem hms_eq {minute second : ℕ} (hour : ℕ) (minuteSmall : minute < 2 ^ 6)
    (secondSmall : second < 2 ^ 6) :
    hour <<< 12 ||| minute <<< 6 ||| second = hour * 2 ^ 12 + minute * 2 ^ 6 + second := by
  have low : minute <<< 6 ||| second < 2 ^ 12 := by
    rw [shiftLeft_lor_eq_add minute 6 secondSmall]
    omega
  rw [Nat.lor_assoc, shiftLeft_lor_eq_add hour 12 low, shiftLeft_lor_eq_add minute 6 secondSmall,
    Nat.add_assoc]

/-! ### The packing macros of `compat56.h` -/

/-- `MY_PACKED_TIME_GET_INT_PART(x)`. -/
def packedTimeGetIntPart (x : ℤ) : ℤ := x >>> (24 : ℕ)

/-- `MY_PACKED_TIME_GET_FRAC_PART(x)`: `x % (1LL << 24)`, with C's remainder. -/
def packedTimeGetFracPart (x : ℤ) : ℤ := x.tmod (2 ^ 24)

/-- `MY_PACKED_TIME_MAKE(i, f)`: `((ulonglong) i << 24) + f`. -/
def packedTimeMake (i f : ℤ) : ℤ := toLonglong (i * 2 ^ 24 + f)

/-- `MY_PACKED_TIME_MAKE_INT(i)`: `(ulonglong) i << 24`. -/
def packedTimeMakeInt (i : ℤ) : ℤ := toLonglong (i * 2 ^ 24)

theorem getIntPart_natCast (intPart frac : ℕ) (small : frac < 2 ^ 24) :
    packedTimeGetIntPart ((intPart * 2 ^ 24 + frac : ℕ) : ℤ) = intPart := by
  rw [packedTimeGetIntPart, Int.shiftRight_eq_div_pow]
  push_cast
  omega

/-- The integer part of a negative packed number is a floor: one less than the negated integer
part of its magnitude unless the fraction is zero. -/
theorem getIntPart_neg (intPart frac : ℕ) (small : frac < 2 ^ 24) :
    packedTimeGetIntPart (-((intPart * 2 ^ 24 + frac : ℕ) : ℤ)) =
      if frac = 0 then -(intPart : ℤ) else -(intPart : ℤ) - 1 := by
  rw [packedTimeGetIntPart, Int.shiftRight_eq_div_pow]
  push_cast
  split_ifs <;> omega

theorem getIntPart_signed_mul (neg : Bool) (intPart : ℕ) :
    packedTimeGetIntPart (signed neg (intPart * 2 ^ 24)) = signed neg intPart := by
  cases neg
  · rw [signed, if_neg Bool.false_ne_true, ← Nat.add_zero (intPart * 2 ^ 24),
      getIntPart_natCast intPart 0 (by norm_num), signed, if_neg Bool.false_ne_true]
  · rw [signed, if_pos rfl, ← Nat.add_zero (intPart * 2 ^ 24),
      getIntPart_neg intPart 0 (by norm_num), if_pos rfl, signed, if_pos rfl]

theorem getFracPart_natCast (intPart frac : ℕ) (small : frac < 2 ^ 24) :
    packedTimeGetFracPart ((intPart * 2 ^ 24 + frac : ℕ) : ℤ) = frac := by
  rw [packedTimeGetFracPart, Int.tmod_eq_emod_of_nonneg (Int.natCast_nonneg _)]
  push_cast
  omega

/-- The fraction of a packed number is C's remainder: it keeps the sign of the number. -/
theorem getFracPart_signed (neg : Bool) (intPart frac : ℕ) (small : frac < 2 ^ 24) :
    packedTimeGetFracPart (signed neg (intPart * 2 ^ 24 + frac)) = signed neg frac := by
  cases neg
  · rw [signed, if_neg Bool.false_ne_true, getFracPart_natCast intPart frac small, signed,
      if_neg Bool.false_ne_true]
  · rw [signed, if_pos rfl, packedTimeGetFracPart, Int.neg_tmod, ← packedTimeGetFracPart,
      getFracPart_natCast intPart frac small, signed, if_pos rfl]

/-! ### `TIME` -/

/-- `TIME_to_longlong_time_packed`. -/
def timeToLonglongTimePacked (ltime : MysqlTime) : ℤ :=
  -- the days are mixed with the hours: "1 00:10:10" is "24:10:10"
  let hms := ((ltime.day * 24 + ltime.hour) <<< 12) ||| (ltime.minute <<< 6) ||| ltime.second
  let tmp := packedTimeMake hms ltime.secondPart
  if ltime.neg then -tmp else tmp

/-- `TIME_from_longlong_time_packed`. -/
def timeFromLonglongTimePacked (tmp : ℤ) : MysqlTime :=
  let neg := decide (tmp < 0)
  let tmp := if neg then -tmp else tmp
  let hms := (packedTimeGetIntPart tmp).toNat
  { year := 0
    month := 0
    day := 0
    hour := (hms >>> 12) % 2 ^ 10
    minute := (hms >>> 6) % 2 ^ 6
    second := hms % 2 ^ 6
    secondPart := (packedTimeGetFracPart tmp).toNat
    neg := neg
    timeType := .time }

/-- `my_time_binary_length`. -/
def myTimeBinaryLength (dec : ℕ) : ℕ := 3 + (dec + 1) / 2

/-- `TIMEF_OFS`. -/
def timefOfs : ℤ := 0x800000000000

/-- `TIMEF_INT_OFS`. -/
def timefIntOfs : ℤ := 0x800000

/-- `my_time_packed_to_binary`: the bytes written at `ptr`. -/
def myTimePackedToBinary (nr : ℤ) (dec : ℕ) : List ℕ :=
  match dec with
  | 1 | 2 =>
    intStore 3 (timefIntOfs + packedTimeGetIntPart nr) ++
      [toUchar ((packedTimeGetFracPart nr).tdiv 10000)]
  | 3 | 4 =>
    intStore 3 (timefIntOfs + packedTimeGetIntPart nr) ++
      intStore 2 ((packedTimeGetFracPart nr).tdiv 100)
  | 5 | 6 => intStore 6 (nr + timefOfs)
  | _ => intStore 3 (timefIntOfs + packedTimeGetIntPart nr)

/-- The value of an integer part and a fraction of `width` bytes in units of `scale`
microseconds, as `my_time_packed_from_binary` reads them. A negative value stores its fraction
in reverse order, `0x100 - frac` or `0x10000 - frac`, for binary sort compatibility; it is read
back by shifting to the next integer and subtracting the fraction. -/
def reversedFracValue (width scale : ℕ) (intpart frac : ℤ) : ℤ :=
  if intpart < 0 ∧ frac ≠ 0 then packedTimeMake (intpart + 1) ((frac - 256 ^ width) * scale)
  else packedTimeMake intpart (frac * scale)

/-- `my_time_packed_from_binary`. -/
def myTimePackedFromBinary (ptr : List ℕ) (dec : ℕ) : ℤ :=
  match dec with
  | 1 | 2 => reversedFracValue 1 10000 (uintKorr 3 ptr - timefIntOfs) (ptr.getD 3 0)
  | 3 | 4 => reversedFracValue 2 100 (uintKorr 3 ptr - timefIntOfs) (uintKorr 2 (ptr.drop 3))
  | 5 | 6 => uintKorr 6 ptr - timefOfs
  | _ => packedTimeMakeInt (uintKorr 3 ptr - timefIntOfs)

/-! ### `DATETIME` -/

/-- `TIME_to_longlong_datetime_packed`. -/
def timeToLonglongDatetimePacked (ltime : MysqlTime) : ℤ :=
  let ymd := ((ltime.year * 13 + ltime.month) <<< 5) ||| ltime.day
  let hms := (ltime.hour <<< 12) ||| (ltime.minute <<< 6) ||| ltime.second
  let tmp := packedTimeMake ((ymd <<< 17) ||| hms) ltime.secondPart
  if ltime.neg then -tmp else tmp

/-- `TIME_from_longlong_datetime_packed`. -/
def timeFromLonglongDatetimePacked (tmp : ℤ) : MysqlTime :=
  let neg := decide (tmp < 0)
  let tmp := if neg then -tmp else tmp
  let ymdhms := (packedTimeGetIntPart tmp).toNat
  let ymd := ymdhms >>> 17
  let ym := ymd >>> 5
  let hms := ymdhms % 2 ^ 17
  { year := ym / 13
    month := ym % 13
    day := ymd % 2 ^ 5
    hour := hms >>> 12
    minute := (hms >>> 6) % 2 ^ 6
    second := hms % 2 ^ 6
    secondPart := (packedTimeGetFracPart tmp).toNat
    neg := neg
    timeType := .datetime }

/-- `my_datetime_binary_length`. -/
def myDatetimeBinaryLength (dec : ℕ) : ℕ := 5 + (dec + 1) / 2

/-- `DATETIMEF_INT_OFS`. -/
def datetimefIntOfs : ℤ := 0x8000000000

/-- `my_datetime_packed_from_binary`. -/
def myDatetimePackedFromBinary (ptr : List ℕ) (dec : ℕ) : ℤ :=
  let intpart : ℤ := uintKorr 5 ptr - datetimefIntOfs
  match dec with
  | 1 | 2 => packedTimeMake intpart (toSchar (ptr.getD 5 0) * 10000)
  | 3 | 4 => packedTimeMake intpart (Decimal.sintKorr 2 (ptr.drop 5) * 100)
  | 5 | 6 => packedTimeMake intpart (Decimal.sintKorr 3 (ptr.drop 5))
  | _ => packedTimeMakeInt intpart

/-- `my_datetime_packed_to_binary`: the bytes written at `ptr`. -/
def myDatetimePackedToBinary (nr : ℤ) (dec : ℕ) : List ℕ :=
  intStore 5 (packedTimeGetIntPart nr + datetimefIntOfs) ++
    match dec with
    | 1 | 2 => [toUchar ((packedTimeGetFracPart nr).tdiv 10000)]
    | 3 | 4 => intStore 2 ((packedTimeGetFracPart nr).tdiv 100)
    | 5 | 6 => intStore 3 (packedTimeGetFracPart nr)
    | _ => []

/-! ### `TIMESTAMP` -/

/-- `my_timestamp_binary_length`. -/
def myTimestampBinaryLength (dec : ℕ) : ℕ := 4 + (dec + 1) / 2

/-- `my_max_usec_value`. -/
def myMaxUsecValue : List ℤ := [0, 900000, 990000, 999000, 999900, 999990, 999999]

/-- `my_timestamp_from_binary`. A fraction of corrupt data is cut to the largest of the
precision. -/
def myTimestampFromBinary (ptr : List ℕ) (dec : ℕ) : Timeval :=
  let tvSec : ℤ := uintKorr 4 ptr
  let cut (tvUsec : ℤ) : Timeval := ⟨tvSec, min tvUsec (myMaxUsecValue.getD dec 0)⟩
  match dec with
  | 1 | 2 => cut (ptr.getD 4 0 * 10000)
  | 3 | 4 => cut (uintKorr 2 (ptr.drop 4) * 100)
  | 5 | 6 => cut (uintKorr 3 (ptr.drop 4))
  | _ => ⟨tvSec, 0⟩

/-- `my_timestamp_to_binary`: the bytes written at `ptr`. -/
def myTimestampToBinary (tm : Timeval) (dec : ℕ) : List ℕ :=
  intStore 4 tm.tvSec ++
    match dec with
    | 1 | 2 => [toUchar (tm.tvUsec.tdiv 10000)]
    | 3 | 4 => intStore 2 (tm.tvUsec.tdiv 100)
    | 5 | 6 => intStore 3 tm.tvUsec
    | _ => []

end MariaDB.Temporal
