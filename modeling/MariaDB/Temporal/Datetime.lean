/-
What `compat56.cc` does with a `DATETIME` and a `TIMESTAMP`, and the order of the strings of all
three formats.

A valid non-negative `DATETIME` packs `year * 13 + month`, the day, hours, minutes and seconds
into an integer part below `2 ^ 39`, shifted by 24 bits with the microseconds below, and
unpacks to the same value. Its string is the integer part with the offset `DATETIMEF_INT_OFS`
in five bytes and the fraction after it, read back with a signed read that the small fractions
of a valid value never make negative. A `TIMESTAMP` is the seconds of a `timeval` in four bytes
and its microseconds after. In both the fraction is a code in units of a power of ten, so two
strings of one precision compare as the pairs of integer part and code, which is the order of
the numbers (`Positional.compare_mul_add`).
-/

import MariaDB.Temporal.Time

namespace MariaDB.Temporal

open BitFields (shiftLeft_lor_eq_add)

/-! ### `DATETIME` -/

/-- The integer part of the packed number of a `DATETIME`: `year * 13 + month`, the day, the
hours, the minutes and the seconds. -/
def datetimeIntPart (t : MysqlTime) : ℕ :=
  ((t.year * 13 + t.month) * 2 ^ 5 + t.day) * 2 ^ 17 + t.hour * 2 ^ 12 + t.minute * 2 ^ 6 +
    t.second

/-- A valid non-negative `DATETIME` value of precision `dec`. -/
structure ValidDatetime (dec : ℕ) (t : MysqlTime) : Prop where
  year : t.year ≤ 9999
  month : t.month ≤ 12
  day : t.day ≤ 31
  hour : t.hour ≤ 23
  minute : t.minute ≤ 59
  second : t.second ≤ 59
  secondPart : t.secondPart ≤ 999999
  rounded : 10 ^ (6 - dec) ∣ t.secondPart
  neg : t.neg = false
  timeType : t.timeType = .datetime

theorem ValidDatetime.intPart_lt {dec : ℕ} {t : MysqlTime} (valid : ValidDatetime dec t) :
    datetimeIntPart t < 2 ^ 39 := by
  have year := valid.year
  have month := valid.month
  have day := valid.day
  have hour := valid.hour
  have minute := valid.minute
  have second := valid.second
  rw [datetimeIntPart]
  omega

theorem timeToLonglongDatetimePacked_eq {dec : ℕ} {t : MysqlTime} (valid : ValidDatetime dec t) :
    timeToLonglongDatetimePacked t = ((datetimeIntPart t * 2 ^ 24 + t.secondPart : ℕ) : ℤ) := by
  have small := valid.intPart_lt
  have secondPart := valid.secondPart
  have day := valid.day
  have hour := valid.hour
  have minute := valid.minute
  have second := valid.second
  simp only [timeToLonglongDatetimePacked]
  rw [shiftLeft_lor_eq_add _ 5 (by omega), hms_eq t.hour (by omega) (by omega),
    shiftLeft_lor_eq_add _ 17 (by omega), valid.neg, if_neg Bool.false_ne_true, packedTimeMake,
    toLonglong_of_lt]
  · rw [datetimeIntPart]
    push_cast
    ring
  · omega
  · rw [datetimeIntPart] at small
    push_cast
    omega

theorem timeFromLonglongDatetimePacked_timeToLonglongDatetimePacked {dec : ℕ} {t : MysqlTime}
    (valid : ValidDatetime dec t) :
    timeFromLonglongDatetimePacked (timeToLonglongDatetimePacked t) = t := by
  have secondPartBound := valid.secondPart
  rw [timeToLonglongDatetimePacked_eq valid]
  simp only [timeFromLonglongDatetimePacked]
  rw [decide_eq_false (by omega), if_neg Bool.false_ne_true,
    getIntPart_natCast _ _ (by omega), getFracPart_natCast _ _ (by omega), Int.toNat_natCast,
    Int.toNat_natCast, Nat.shiftRight_eq_div_pow, Nat.shiftRight_eq_div_pow,
    Nat.shiftRight_eq_div_pow, datetimeIntPart]
  rcases t with ⟨year, month, day, hour, minute, second, secondPart, neg, timeType⟩
  obtain ⟨yearBound, monthBound, dayBound, hourBound, minuteBound, secondBound, -, -, rfl, rfl⟩ :=
    valid
  simp only at yearBound monthBound dayBound hourBound minuteBound secondBound secondPartBound ⊢
  congr 1
  all_goals omega

theorem datetimefInt_read (q : ℤ) (rest : List ℕ) (low : 0 ≤ q) (high : q < 2 ^ 39) :
    (uintKorr 5 (intStore 5 (q + datetimefIntOfs) ++ rest) : ℤ) - datetimefIntOfs = q := by
  rw [uintKorr_intStore, datetimefIntOfs]
  omega

theorem myDatetimePackedFromBinary_toBinary {dec : ℕ} (precision : dec ≤ 6)
    {intPart frac : ℕ} (intSmall : intPart < 2 ^ 39) (fracSmall : frac ≤ 999999)
    (rounded : 10 ^ (6 - dec) ∣ frac) :
    myDatetimePackedFromBinary (myDatetimePackedToBinary (intPart * 2 ^ 24 + frac : ℕ) dec) dec =
      (intPart * 2 ^ 24 + frac : ℕ) := by
  have make : ∀ value : ℤ, value = frac →
      packedTimeMake intPart value = (intPart * 2 ^ 24 + frac : ℕ) := by
    intro value same
    rw [packedTimeMake, toLonglong_of_lt] <;> push_cast <;> omega
  obtain rfl | rfl | rfl | rfl | rfl | rfl | rfl :
      dec = 0 ∨ dec = 1 ∨ dec = 2 ∨ dec = 3 ∨ dec = 4 ∨ dec = 5 ∨ dec = 6 := by omega
  all_goals
    simp only [myDatetimePackedToBinary, myDatetimePackedFromBinary]
    rw [getIntPart_natCast _ _ (by omega), datetimefInt_read _ _ (by omega) (by omega)]
  · -- precision 0: the fraction is zero and only the integer part is stored
    have zero : frac = 0 := Nat.eq_zero_of_dvd_of_lt rounded (by norm_num; omega)
    subst zero
    rw [packedTimeMakeInt, ← make 0 rfl, packedTimeMake, Int.add_zero]
  all_goals rw [getFracPart_natCast _ _ (by omega)]
  · rw [tdiv_ofNat, getD_eq_uintKorr, List.drop_left' (length_intStore 5 _), ← intStore_one,
      ← List.append_nil (intStore 1 _), uintKorr_intStore, toNat_natCast_emod (by omega), toSchar,
      if_neg (by omega)]
    exact make _ (by omega)
  · rw [tdiv_ofNat, getD_eq_uintKorr, List.drop_left' (length_intStore 5 _), ← intStore_one,
      ← List.append_nil (intStore 1 _), uintKorr_intStore, toNat_natCast_emod (by omega), toSchar,
      if_neg (by omega)]
    exact make _ (by omega)
  · rw [tdiv_ofNat, List.drop_left' (length_intStore 5 _), ← List.append_nil (intStore 2 _),
      sintKorr_intStore 1 _ _ (by omega)]
    exact make _ (by omega)
  · rw [tdiv_ofNat, List.drop_left' (length_intStore 5 _), ← List.append_nil (intStore 2 _),
      sintKorr_intStore 1 _ _ (by omega)]
    exact make _ (by omega)
  · rw [List.drop_left' (length_intStore 5 _), ← List.append_nil (intStore 3 _),
      sintKorr_intStore 2 _ _ (by omega)]
    exact make _ rfl
  · rw [List.drop_left' (length_intStore 5 _), ← List.append_nil (intStore 3 _),
      sintKorr_intStore 2 _ _ (by omega)]
    exact make _ rfl

/-- Two non-negative packed numbers whose fractions are codes in units of `scale` compare as the
pairs of their integer parts and their codes. -/
theorem compare_packed_natCast {scale : ℕ} (positive : 0 < scale) {intPart intPart' code code' : ℕ}
    (small : code * scale < 2 ^ 24) (small' : code' * scale < 2 ^ 24) :
    compare ((intPart * 2 ^ 24 + code * scale : ℕ) : ℤ) ((intPart' * 2 ^ 24 + code' * scale : ℕ) : ℤ) =
      (compare (intPart : ℤ) intPart').then (compare code code') := by
  push_cast
  exact Positional.compare_mul_add positive (by exact_mod_cast small) (by exact_mod_cast small')

theorem compare_myDatetimePackedToBinary {dec : ℕ} (precision : dec ≤ 6)
    {intPart frac intPart' frac' : ℕ} (intSmall : intPart < 2 ^ 39) (fracSmall : frac ≤ 999999)
    (rounded : 10 ^ (6 - dec) ∣ frac) (intSmall' : intPart' < 2 ^ 39)
    (fracSmall' : frac' ≤ 999999) (rounded' : 10 ^ (6 - dec) ∣ frac') :
    compare (myDatetimePackedToBinary (intPart * 2 ^ 24 + frac : ℕ) dec)
        (myDatetimePackedToBinary (intPart' * 2 ^ 24 + frac' : ℕ) dec) =
      compare ((intPart * 2 ^ 24 + frac : ℕ) : ℤ) ((intPart' * 2 ^ 24 + frac' : ℕ) : ℤ) := by
  have offset : datetimefIntOfs = 2 ^ 39 := by norm_num [datetimefIntOfs]
  have pairs : ∀ scale, 0 < scale → scale ∣ frac → scale ∣ frac' →
      compare ((intPart * 2 ^ 24 + frac : ℕ) : ℤ) ((intPart' * 2 ^ 24 + frac' : ℕ) : ℤ) =
        (compare (intPart : ℤ) intPart').then (compare (frac / scale) (frac' / scale)) := by
    rintro scale positive ⟨code, rfl⟩ ⟨code', rfl⟩
    rw [Nat.mul_div_cancel_left code positive, Nat.mul_div_cancel_left code' positive,
      Nat.mul_comm scale code, Nat.mul_comm scale code']
    rw [Nat.mul_comm scale code] at fracSmall
    rw [Nat.mul_comm scale code'] at fracSmall'
    exact compare_packed_natCast positive (by omega) (by omega)
  obtain rfl | rfl | rfl | rfl | rfl | rfl | rfl :
      dec = 0 ∨ dec = 1 ∨ dec = 2 ∨ dec = 3 ∨ dec = 4 ∨ dec = 5 ∨ dec = 6 := by omega
  all_goals
    simp only [myDatetimePackedToBinary]
    rw [getIntPart_natCast _ _ (by omega), getIntPart_natCast _ _ (by omega),
      add_comm _ datetimefIntOfs, add_comm _ datetimefIntOfs]
  · rw [List.append_nil, List.append_nil, compare_intStore, offset,
      compare_offset (by omega) (by omega) (by omega) (by omega),
      pairs 1000000 (by norm_num) rounded rounded', Nat.div_eq_of_lt (by omega),
      Nat.div_eq_of_lt (by omega), compare_eq_iff_eq.mpr rfl, Ordering.then_eq]
  all_goals rw [getFracPart_natCast _ _ (by omega), getFracPart_natCast _ _ (by omega)]
  · rw [tdiv_ofNat, tdiv_ofNat, ← intStore_one, ← intStore_one, offset,
      compare_offset_code 5 1 (by omega) (by omega) (by omega) (by omega) (by omega) (by omega),
      pairs 10000 (by norm_num) (Nat.dvd_trans (by norm_num) rounded)
        (Nat.dvd_trans (by norm_num) rounded')]
  · rw [tdiv_ofNat, tdiv_ofNat, ← intStore_one, ← intStore_one, offset,
      compare_offset_code 5 1 (by omega) (by omega) (by omega) (by omega) (by omega) (by omega),
      pairs 10000 (by norm_num) rounded rounded']
  · rw [tdiv_ofNat, tdiv_ofNat, offset,
      compare_offset_code 5 2 (by omega) (by omega) (by omega) (by omega) (by omega) (by omega),
      pairs 100 (by norm_num) (Nat.dvd_trans (by norm_num) rounded)
        (Nat.dvd_trans (by norm_num) rounded')]
  · rw [tdiv_ofNat, tdiv_ofNat, offset,
      compare_offset_code 5 2 (by omega) (by omega) (by omega) (by omega) (by omega) (by omega),
      pairs 100 (by norm_num) rounded rounded']
  all_goals
    rw [offset, compare_offset_code 5 3 (by omega) (by omega) (by omega) (by omega) (by omega)
      (by omega), pairs 1 Nat.one_pos (Nat.one_dvd _) (Nat.one_dvd _), Nat.div_one, Nat.div_one]

/-! ### `TIMESTAMP` -/

/-- A `timeval` of precision `dec`: seconds in 32 bits, and microseconds below a second rounded
to `dec` digits. -/
structure ValidTimeval (dec : ℕ) (tm : Timeval) : Prop where
  tvSec : 0 ≤ tm.tvSec ∧ tm.tvSec < 2 ^ 32
  tvUsec : 0 ≤ tm.tvUsec ∧ tm.tvUsec ≤ 999999
  rounded : 10 ^ (6 - dec) ∣ tm.tvUsec

/-- The microseconds of a `timeval`. -/
def Timeval.microseconds (tm : Timeval) : ℤ := tm.tvSec * 1000000 + tm.tvUsec

theorem myTimestampFromBinary_toBinary {dec : ℕ} (precision : dec ≤ 6) {tm : Timeval}
    (valid : ValidTimeval dec tm) : myTimestampFromBinary (myTimestampToBinary tm dec) dec = tm := by
  obtain ⟨sec, usec⟩ := tm
  obtain ⟨⟨secLow, secHigh⟩, ⟨usecLow, usecHigh⟩, rounded⟩ := valid
  dsimp only at secLow secHigh usecLow usecHigh rounded
  lift sec to ℕ using secLow
  lift usec to ℕ using usecLow
  have rounded : 10 ^ (6 - dec) ∣ usec := by exact_mod_cast rounded
  have secRead : ∀ rest, (uintKorr 4 (intStore 4 sec ++ rest) : ℤ) = sec := by
    intro rest
    rw [uintKorr_intStore, toNat_natCast_emod (by omega)]
  obtain rfl | rfl | rfl | rfl | rfl | rfl | rfl :
      dec = 0 ∨ dec = 1 ∨ dec = 2 ∨ dec = 3 ∨ dec = 4 ∨ dec = 5 ∨ dec = 6 := by omega
  all_goals simp only [myTimestampToBinary, myTimestampFromBinary]
  · have zero : usec = 0 := Nat.eq_zero_of_dvd_of_lt rounded (by norm_num; omega)
    rw [secRead, zero, Nat.cast_zero]
  · rw [secRead, tdiv_ofNat, getD_eq_uintKorr, List.drop_left' (length_intStore 4 _),
      ← intStore_one, ← List.append_nil (intStore 1 _), uintKorr_intStore,
      toNat_natCast_emod (by omega), show myMaxUsecValue.getD 1 0 = 900000 from rfl]
    congr 1
    omega
  · rw [secRead, tdiv_ofNat, getD_eq_uintKorr, List.drop_left' (length_intStore 4 _),
      ← intStore_one, ← List.append_nil (intStore 1 _), uintKorr_intStore,
      toNat_natCast_emod (by omega), show myMaxUsecValue.getD 2 0 = 990000 from rfl]
    congr 1
    omega
  · rw [secRead, tdiv_ofNat, List.drop_left' (length_intStore 4 _),
      ← List.append_nil (intStore 2 _), uintKorr_intStore, toNat_natCast_emod (by omega),
      show myMaxUsecValue.getD 3 0 = 999000 from rfl]
    congr 1
    omega
  · rw [secRead, tdiv_ofNat, List.drop_left' (length_intStore 4 _),
      ← List.append_nil (intStore 2 _), uintKorr_intStore, toNat_natCast_emod (by omega),
      show myMaxUsecValue.getD 4 0 = 999900 from rfl]
    congr 1
    omega
  · rw [secRead, List.drop_left' (length_intStore 4 _), ← List.append_nil (intStore 3 _),
      uintKorr_intStore, toNat_natCast_emod (by omega),
      show myMaxUsecValue.getD 5 0 = 999990 from rfl]
    congr 1
    omega
  · rw [secRead, List.drop_left' (length_intStore 4 _), ← List.append_nil (intStore 3 _),
      uintKorr_intStore, toNat_natCast_emod (by omega),
      show myMaxUsecValue.getD 6 0 = 999999 from rfl]
    congr 1
    omega

theorem compare_myTimestampToBinary {dec : ℕ} (precision : dec ≤ 6) {tm tm' : Timeval}
    (valid : ValidTimeval dec tm) (valid' : ValidTimeval dec tm') :
    compare (myTimestampToBinary tm dec) (myTimestampToBinary tm' dec) =
      compare tm.microseconds tm'.microseconds := by
  obtain ⟨sec, usec⟩ := tm
  obtain ⟨sec', usec'⟩ := tm'
  obtain ⟨⟨secLow, secHigh⟩, ⟨usecLow, usecHigh⟩, rounded⟩ := valid
  obtain ⟨⟨secLow', secHigh'⟩, ⟨usecLow', usecHigh'⟩, rounded'⟩ := valid'
  dsimp only at secLow secHigh usecLow usecHigh rounded secLow' secHigh' usecLow' usecHigh' rounded'
  lift sec to ℕ using secLow
  lift usec to ℕ using usecLow
  lift sec' to ℕ using secLow'
  lift usec' to ℕ using usecLow'
  have rounded : 10 ^ (6 - dec) ∣ usec := by exact_mod_cast rounded
  have rounded' : 10 ^ (6 - dec) ∣ usec' := by exact_mod_cast rounded'
  have pairs : ∀ scale, 0 < scale → scale ∣ usec → scale ∣ usec' →
      compare ((sec : ℤ) * 1000000 + usec) ((sec' : ℤ) * 1000000 + usec') =
        (compare (sec : ℤ) sec').then (compare (usec / scale) (usec' / scale)) := by
    rintro scale positive ⟨code, rfl⟩ ⟨code', rfl⟩
    have small : ((scale * code : ℕ) : ℤ) < 1000000 := by omega
    have small' : ((scale * code' : ℕ) : ℤ) < 1000000 := by omega
    rw [Nat.mul_div_cancel_left code positive, Nat.mul_div_cancel_left code' positive]
    push_cast at small small' ⊢
    rw [mul_comm (scale : ℤ) code, mul_comm (scale : ℤ) code'] at *
    exact Positional.compare_mul_add positive small small'
  have offset : ∀ x : ℤ, intStore 4 x = intStore 4 (0 + x) := fun x => by rw [zero_add]
  obtain rfl | rfl | rfl | rfl | rfl | rfl | rfl :
      dec = 0 ∨ dec = 1 ∨ dec = 2 ∨ dec = 3 ∨ dec = 4 ∨ dec = 5 ∨ dec = 6 := by omega
  all_goals
    simp only [myTimestampToBinary, Timeval.microseconds]
    rw [offset sec, offset sec']
  · rw [List.append_nil, List.append_nil, compare_intStore,
      compare_offset (by omega) (by omega) (by omega) (by omega),
      pairs 1000000 (by norm_num) rounded rounded', Nat.div_eq_of_lt (by omega),
      Nat.div_eq_of_lt (by omega), compare_eq_iff_eq.mpr rfl, Ordering.then_eq]
  · rw [tdiv_ofNat, tdiv_ofNat, ← intStore_one, ← intStore_one,
      compare_offset_code 4 1 (by omega) (by omega) (by omega) (by omega) (by omega) (by omega),
      pairs 10000 (by norm_num) (Nat.dvd_trans (by norm_num) rounded)
        (Nat.dvd_trans (by norm_num) rounded')]
  · rw [tdiv_ofNat, tdiv_ofNat, ← intStore_one, ← intStore_one,
      compare_offset_code 4 1 (by omega) (by omega) (by omega) (by omega) (by omega) (by omega),
      pairs 10000 (by norm_num) rounded rounded']
  · rw [tdiv_ofNat, tdiv_ofNat,
      compare_offset_code 4 2 (by omega) (by omega) (by omega) (by omega) (by omega) (by omega),
      pairs 100 (by norm_num) (Nat.dvd_trans (by norm_num) rounded)
        (Nat.dvd_trans (by norm_num) rounded')]
  · rw [tdiv_ofNat, tdiv_ofNat,
      compare_offset_code 4 2 (by omega) (by omega) (by omega) (by omega) (by omega) (by omega),
      pairs 100 (by norm_num) rounded rounded']
  all_goals
    rw [compare_offset_code 4 3 (by omega) (by omega) (by omega) (by omega) (by omega)
      (by omega), pairs 1 Nat.one_pos (Nat.one_dvd _) (Nat.one_dvd _), Nat.div_one, Nat.div_one]

/-! ### The three formats -/

/-- The MySQL 5.6 temporal formats are exact and keep the order. The string of a valid `TIME`
reads back to its packed number, which unpacks to the value with the days folded into the hours
and the sign of a zero dropped; the string of a valid non-negative `DATETIME` reads back, and
its number unpacks to the value; the string of a `timeval` reads back to it. Two strings of one
type and one precision compare as their packed numbers, and for `timeval`s as their
microseconds. -/
theorem packed_temporal_round_trip_compare :
    (∀ dec ≤ 6, ∀ t, ValidTime dec t →
      myTimePackedFromBinary (myTimePackedToBinary (timeToLonglongTimePacked t) dec) dec =
          timeToLonglongTimePacked t ∧
        timeFromLonglongTimePacked (timeToLonglongTimePacked t) = foldTime t) ∧
    (∀ dec ≤ 6, ∀ t, ValidDatetime dec t →
      myDatetimePackedFromBinary (myDatetimePackedToBinary (timeToLonglongDatetimePacked t) dec)
          dec = timeToLonglongDatetimePacked t ∧
        timeFromLonglongDatetimePacked (timeToLonglongDatetimePacked t) = t) ∧
    (∀ dec ≤ 6, ∀ tm, ValidTimeval dec tm →
      myTimestampFromBinary (myTimestampToBinary tm dec) dec = tm) ∧
    (∀ dec ≤ 6, ∀ t t', ValidTime dec t → ValidTime dec t' →
      compare (myTimePackedToBinary (timeToLonglongTimePacked t) dec)
          (myTimePackedToBinary (timeToLonglongTimePacked t') dec) =
        compare (timeToLonglongTimePacked t) (timeToLonglongTimePacked t')) ∧
    (∀ dec ≤ 6, ∀ t t', ValidDatetime dec t → ValidDatetime dec t' →
      compare (myDatetimePackedToBinary (timeToLonglongDatetimePacked t) dec)
          (myDatetimePackedToBinary (timeToLonglongDatetimePacked t') dec) =
        compare (timeToLonglongDatetimePacked t) (timeToLonglongDatetimePacked t')) ∧
    (∀ dec ≤ 6, ∀ tm tm', ValidTimeval dec tm → ValidTimeval dec tm' →
      compare (myTimestampToBinary tm dec) (myTimestampToBinary tm' dec) =
        compare tm.microseconds tm'.microseconds) := by
  refine ⟨?_, ?_, ?_, ?_, ?_, ?_⟩
  · intro dec precision t valid
    refine ⟨?_, timeFromLonglongTimePacked_timeToLonglongTimePacked valid⟩
    rw [timeToLonglongTimePacked_eq valid]
    exact myTimePackedFromBinary_toBinary precision t.neg valid.intPart_lt valid.secondPart
      valid.rounded
  · intro dec precision t valid
    refine ⟨?_, timeFromLonglongDatetimePacked_timeToLonglongDatetimePacked valid⟩
    rw [timeToLonglongDatetimePacked_eq valid]
    exact myDatetimePackedFromBinary_toBinary precision valid.intPart_lt valid.secondPart
      valid.rounded
  · intro dec precision tm valid
    exact myTimestampFromBinary_toBinary precision valid
  · intro dec precision t t' valid valid'
    rw [timeToLonglongTimePacked_eq valid, timeToLonglongTimePacked_eq valid']
    exact compare_myTimePackedToBinary precision t.neg t'.neg valid.intPart_lt valid.secondPart
      valid.rounded valid'.intPart_lt valid'.secondPart valid'.rounded
  · intro dec precision t t' valid valid'
    rw [timeToLonglongDatetimePacked_eq valid, timeToLonglongDatetimePacked_eq valid']
    exact compare_myDatetimePackedToBinary precision valid.intPart_lt valid.secondPart
      valid.rounded valid'.intPart_lt valid'.secondPart valid'.rounded
  · intro dec precision tm tm' valid valid'
    exact compare_myTimestampToBinary precision valid valid'

/-- `-838:59:59.99` at precision 2, whose fraction is stored in reverse, reads back. -/
theorem packed_temporal_round_trip_compare_negative_time :
    ValidTime 2 ⟨0, 0, 0, 838, 59, 59, 990000, true, .time⟩ ∧
      myTimePackedFromBinary
          (myTimePackedToBinary (timeToLonglongTimePacked ⟨0, 0, 0, 838, 59, 59, 990000, true, .time⟩)
            2) 2 =
        timeToLonglongTimePacked ⟨0, 0, 0, 838, 59, 59, 990000, true, .time⟩ := by
  have valid : ValidTime 2 ⟨0, 0, 0, 838, 59, 59, 990000, true, .time⟩ :=
    ⟨rfl, rfl, by decide, by decide, by decide, by decide, by decide, rfl⟩
  exact ⟨valid, (packed_temporal_round_trip_compare.1 2 (by norm_num) _ valid).1⟩

/-- A negative zero is a valid `TIME`, but it packs to `0` and comes back without its sign. -/
theorem packed_time_negative_zero :
    ValidTime 0 ⟨0, 0, 0, 0, 0, 0, 0, true, .time⟩ ∧
      timeFromLonglongTimePacked (timeToLonglongTimePacked ⟨0, 0, 0, 0, 0, 0, 0, true, .time⟩) ≠
        ⟨0, 0, 0, 0, 0, 0, 0, true, .time⟩ :=
  ⟨⟨rfl, rfl, by decide, by decide, by decide, by decide, by decide, rfl⟩, by decide⟩

end MariaDB.Temporal
