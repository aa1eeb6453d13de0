/-
What `compat56.cc` does with a `TIME`: its packed number, the string of each precision, and the
two ways back.

A valid `TIME` packs to the signed number of its integer part (hours with the days folded in,
minutes and seconds) shifted by 24 bits plus its microseconds, and unpacks to the same fields
with the days folded into the hours; only the sign of a zero time is lost, since `-0` packs to
`0`. The string of precision 0 is the integer part with the offset `TIMEF_INT_OFS`, of
precisions 1 to 4 the floor of the integer part with a fraction of one or two bytes after it,
stored in reverse order for a negative number, and of precisions 5 and 6 the whole number with
the offset `TIMEF_OFS`. Every string reads back to its number, and two strings of one precision
compare byte by byte as their numbers: within one integer part the read-back value grows with
the stored fraction and stays below the next integer part, so the order follows from
`Positional.compare_decode`.
-/

import MariaDB.Temporal.Packed

namespace MariaDB.Temporal

open Decimal (signed)

/-! ### The packed number of a `TIME` -/

/-- The integer part of the packed number of a `TIME`: the hours with the days folded in, the
minutes and the seconds. -/
def timeIntPart (t : MysqlTime) : ℕ :=
  (t.day * 24 + t.hour) * 2 ^ 12 + t.minute * 2 ^ 6 + t.second

/-- What `TIME_from_longlong_time_packed` gives back for a `TIME`: the days folded into the
hours, and the sign kept unless every part is zero. -/
def foldTime (t : MysqlTime) : MysqlTime :=
  { t with
    day := 0
    hour := t.day * 24 + t.hour
    neg := t.neg && (t.day * 24 + t.hour + t.minute + t.second + t.secondPart != 0) }

/-- A valid `TIME` value of precision `dec`: no date, at most 838 hours with the days folded
in, minutes, seconds and microseconds in range, the microseconds rounded to `dec` digits. -/
structure ValidTime (dec : ℕ) (t : MysqlTime) : Prop where
  year : t.year = 0
  month : t.month = 0
  hours : t.day * 24 + t.hour ≤ 838
  minute : t.minute ≤ 59
  second : t.second ≤ 59
  secondPart : t.secondPart ≤ 999999
  rounded : 10 ^ (6 - dec) ∣ t.secondPart
  timeType : t.timeType = .time

theorem ValidTime.intPart_lt {dec : ℕ} {t : MysqlTime} (valid : ValidTime dec t) :
    timeIntPart t < 2 ^ 22 := by
  have hours := valid.hours
  have minute := valid.minute
  have second := valid.second
  rw [timeIntPart]
  omega

theorem timeToLonglongTimePacked_eq {dec : ℕ} {t : MysqlTime} (valid : ValidTime dec t) :
    timeToLonglongTimePacked t = signed t.neg (timeIntPart t * 2 ^ 24 + t.secondPart) := by
  have small := valid.intPart_lt
  have secondPart := valid.secondPart
  simp only [timeToLonglongTimePacked]
  rw [hms_eq _ (by have := valid.minute; omega) (by have := valid.second; omega), packedTimeMake,
    toLonglong_of_lt]
  · cases t.neg
    · rw [signed, if_neg Bool.false_ne_true, if_neg Bool.false_ne_true, timeIntPart]
      push_cast
      ring
    · rw [signed, if_pos rfl, if_pos rfl, timeIntPart]
      push_cast
      ring
  · omega
  · rw [timeIntPart] at small
    omega

theorem timeFromLonglongTimePacked_signed (neg : Bool) (intPart frac : ℕ)
    (small : frac < 2 ^ 24) :
    timeFromLonglongTimePacked (signed neg (intPart * 2 ^ 24 + frac)) =
      { year := 0
        month := 0
        day := 0
        hour := intPart / 2 ^ 12 % 2 ^ 10
        minute := intPart / 2 ^ 6 % 2 ^ 6
        second := intPart % 2 ^ 6
        secondPart := frac
        neg := neg && intPart * 2 ^ 24 + frac != 0
        timeType := .time } := by
  simp only [timeFromLonglongTimePacked]
  rw [magnitude_signed, getIntPart_natCast intPart frac small, getFracPart_natCast intPart frac small,
    neg_signed, Int.toNat_natCast, Int.toNat_natCast, Nat.shiftRight_eq_div_pow,
    Nat.shiftRight_eq_div_pow]

theorem timeFromLonglongTimePacked_timeToLonglongTimePacked {dec : ℕ} {t : MysqlTime}
    (valid : ValidTime dec t) :
    timeFromLonglongTimePacked (timeToLonglongTimePacked t) = foldTime t := by
  have secondPartBound := valid.secondPart
  rw [timeToLonglongTimePacked_eq valid, timeFromLonglongTimePacked_signed _ _ _ (by omega),
    foldTime, timeIntPart]
  rcases t with ⟨year, month, day, hour, minute, second, secondPart, neg, timeType⟩
  obtain ⟨rfl, rfl, hours, minuteBound, secondBound, -, -, rfl⟩ := valid
  simp only at hours minuteBound secondBound secondPartBound ⊢
  congr 1
  · omega
  · omega
  · omega
  · congr 1
    rw [Bool.eq_iff_iff, bne_iff_ne, bne_iff_ne]
    omega

/-! ### The strings read back -/

theorem timefInt_read (q : ℤ) (rest : List ℕ) (low : -2 ^ 23 ≤ q) (high : q < 2 ^ 23) :
    (uintKorr 3 (intStore 3 (timefIntOfs + q) ++ rest) : ℤ) - timefIntOfs = q := by
  rw [uintKorr_intStore, timefIntOfs]
  omega

theorem timefOfs_read (x : ℤ) (rest : List ℕ) (low : -2 ^ 47 ≤ x) (high : x < 2 ^ 47) :
    (uintKorr 6 (intStore 6 (x + timefOfs) ++ rest) : ℤ) - timefOfs = x := by
  rw [uintKorr_intStore, timefOfs]
  have modulus : (256 : ℤ) ^ 6 = 2 ^ 48 := by norm_num
  rw [modulus]
  omega

theorem getIntPart_bounds (neg : Bool) {intPart frac : ℕ} (intSmall : intPart < 2 ^ 22)
    (fracSmall : frac < 2 ^ 24) :
    -2 ^ 23 ≤ packedTimeGetIntPart (signed neg (intPart * 2 ^ 24 + frac)) ∧
      packedTimeGetIntPart (signed neg (intPart * 2 ^ 24 + frac)) < 2 ^ 23 := by
  cases neg
  · rw [signed, if_neg Bool.false_ne_true, getIntPart_natCast intPart frac fracSmall]
    omega
  · rw [signed, if_pos rfl, getIntPart_neg intPart frac fracSmall]
    split_ifs <;> omega

theorem reversedFracValue_parts (width scale : ℕ) (neg : Bool) (intPart frac : ℕ)
    (positive : 0 < scale) (intSmall : intPart < 2 ^ 22) (fracSmall : frac < 2 ^ 24)
    (rounded : scale ∣ frac) (codeSmall : frac / scale < 256 ^ width) :
    reversedFracValue width scale (packedTimeGetIntPart (signed neg (intPart * 2 ^ 24 + frac)))
        ((((packedTimeGetFracPart (signed neg (intPart * 2 ^ 24 + frac))).tdiv scale) %
          256 ^ width).toNat) = signed neg (intPart * 2 ^ 24 + frac) := by
  rw [getFracPart_signed neg intPart frac fracSmall, tdiv_signed]
  obtain ⟨code, rfl⟩ := rounded
  rw [Nat.mul_div_cancel_left code positive] at codeSmall ⊢
  have codeBelow : (code : ℤ) < 256 ^ width := by exact_mod_cast codeSmall
  have fracBelow : (code : ℤ) * scale < 2 ^ 24 := by
    rw [Nat.mul_comm] at fracSmall
    exact_mod_cast fracSmall
  have fracNonneg : 0 ≤ (code : ℤ) * scale := by positivity
  cases neg
  · have intRead : packedTimeGetIntPart (intPart * 2 ^ 24 + scale * code : ℕ) = intPart :=
      getIntPart_natCast intPart _ fracSmall
    rw [signed, if_neg Bool.false_ne_true, signed, if_neg Bool.false_ne_true, intRead,
      Int.emod_eq_of_lt (Int.natCast_nonneg _) codeBelow, Int.toNat_natCast, reversedFracValue,
      if_neg (by omega), packedTimeMake, toLonglong_of_lt]
    · push_cast
      ring
    · omega
    · omega
  · rw [signed, if_pos rfl, signed, if_pos rfl, getIntPart_neg intPart _ fracSmall]
    rcases Nat.eq_zero_or_pos code with zero | codePositive
    · subst zero
      rw [Nat.mul_zero, if_pos rfl, Nat.cast_zero, neg_zero, Int.zero_emod, Int.toNat_zero,
        reversedFracValue, if_neg (by omega), packedTimeMake, toLonglong_of_lt]
      · push_cast
        ring
      · omega
      · omega
    · have fracPositive : scale * code ≠ 0 := Nat.mul_ne_zero positive.ne' codePositive.ne'
      have stored : (((256 ^ width - code : ℤ)).toNat : ℤ) = 256 ^ width - code :=
        Int.toNat_of_nonneg (by omega)
      have reversed : ((256 ^ width - code : ℤ) - 256 ^ width) * scale = -(code * scale) := by
        ring
      rw [if_neg fracPositive, emod_neg_of_lt (by exact_mod_cast codePositive) codeBelow,
        reversedFracValue, stored, if_pos ⟨by omega, by omega⟩, reversed, packedTimeMake,
        toLonglong_of_lt]
      · push_cast
        ring
      · omega
      · omega

theorem reversedFrac_round_trip (width scale : ℕ) (neg : Bool) {intPart frac : ℕ}
    (positive : 0 < scale) (intSmall : intPart < 2 ^ 22) (fracSmall : frac < 2 ^ 24)
    (rounded : scale ∣ frac) (codeSmall : frac / scale < 256 ^ width) :
    let packed := signed neg (intPart * 2 ^ 24 + frac)
    let ptr := intStore 3 (timefIntOfs + packedTimeGetIntPart packed) ++
      intStore width ((packedTimeGetFracPart packed).tdiv scale)
    reversedFracValue width scale (uintKorr 3 ptr - timefIntOfs) (uintKorr width (ptr.drop 3)) =
      packed := by
  obtain ⟨low, high⟩ := getIntPart_bounds neg intSmall fracSmall
  intro packed ptr
  rw [timefInt_read _ _ low high, List.drop_left' (length_intStore 3 _),
    ← List.append_nil (intStore width _), uintKorr_intStore]
  exact reversedFracValue_parts width scale neg intPart frac positive intSmall fracSmall rounded
    codeSmall

theorem myTimePackedFromBinary_toBinary {dec : ℕ} (precision : dec ≤ 6) (neg : Bool)
    {intPart frac : ℕ} (intSmall : intPart < 2 ^ 22) (fracSmall : frac ≤ 999999)
    (rounded : 10 ^ (6 - dec) ∣ frac) :
    myTimePackedFromBinary (myTimePackedToBinary (signed neg (intPart * 2 ^ 24 + frac)) dec) dec =
      signed neg (intPart * 2 ^ 24 + frac) := by
  obtain ⟨low, high⟩ := getIntPart_bounds neg intSmall (by omega : frac < 2 ^ 24)
  obtain rfl | rfl | rfl | rfl | rfl | rfl | rfl :
      dec = 0 ∨ dec = 1 ∨ dec = 2 ∨ dec = 3 ∨ dec = 4 ∨ dec = 5 ∨ dec = 6 := by omega
  · -- precision 0: the fraction is zero and only the integer part is stored
    have zero : frac = 0 := Nat.eq_zero_of_dvd_of_lt rounded (by norm_num; omega)
    subst zero
    simp only [myTimePackedToBinary, myTimePackedFromBinary]
    rw [← List.append_nil (intStore 3 _), timefInt_read _ _ low high, Nat.add_zero,
      getIntPart_signed_mul, packedTimeMakeInt]
    cases neg
    · rw [signed, if_neg Bool.false_ne_true, signed, if_neg Bool.false_ne_true, toLonglong_of_lt]
      · push_cast
        ring
      · omega
      · omega
    · rw [signed, if_pos rfl, signed, if_pos rfl, toLonglong_of_lt]
      · push_cast
        ring
      · omega
      · omega
  · simp only [myTimePackedToBinary, myTimePackedFromBinary]
    rw [getD_eq_uintKorr, ← intStore_one]
    exact reversedFrac_round_trip 1 10000 neg (by norm_num) intSmall (by omega)
      (Nat.dvd_trans (by norm_num) rounded) (by omega)
  · simp only [myTimePackedToBinary, myTimePackedFromBinary]
    rw [getD_eq_uintKorr, ← intStore_one]
    exact reversedFrac_round_trip 1 10000 neg (by norm_num) intSmall (by omega) rounded (by omega)
  · simp only [myTimePackedToBinary, myTimePackedFromBinary]
    exact reversedFrac_round_trip 2 100 neg (by norm_num) intSmall (by omega)
      (Nat.dvd_trans (by norm_num) rounded) (by omega)
  · simp only [myTimePackedToBinary, myTimePackedFromBinary]
    exact reversedFrac_round_trip 2 100 neg (by norm_num) intSmall (by omega) rounded (by omega)
  all_goals
    have bounds := signed_bounds neg (intPart * 2 ^ 24 + frac)
    simp only [myTimePackedToBinary, myTimePackedFromBinary]
    rw [← List.append_nil (intStore 6 _), timefOfs_read _ _ (by omega) (by omega)]

/-! ### The strings compare as the numbers -/

theorem compare_mul_unit {unit : ℤ} (positive : 0 < unit) (q q' : ℤ) :
    compare (q * unit) (q' * unit) = compare q q' := by
  rw [← cmp_eq_compare, ← cmp_eq_compare]
  exact (strictMono_mul_right_of_pos positive).cmp_map_eq q q'

/-- Offset by `TIMEF_INT_OFS`, the integer parts of `TIME` compare as unsigned numbers. -/
theorem compare_timefInt {q q' : ℤ} (low : -2 ^ 23 ≤ q) (high : q < 2 ^ 23) (low' : -2 ^ 23 ≤ q')
    (high' : q' < 2 ^ 23) :
    compare ((timefIntOfs + q) % 256 ^ 3).toNat ((timefIntOfs + q') % 256 ^ 3).toNat =
      compare q q' := by
  rw [timefIntOfs]
  exact compare_offset (by omega) (by omega) (by omega) (by omega)

/-- Within one integer part, the value `my_time_packed_from_binary` reads grows with the stored
fraction. -/
theorem reversedFracValue_strictMonoOn (width scale : ℕ) (positive : 0 < scale)
    (unit : 256 ^ width * scale ≤ 2 ^ 24) {q : ℤ} (low : -2 ^ 23 ≤ q) (high : q < 2 ^ 23) :
    StrictMonoOn (fun code : ℕ => reversedFracValue width scale q code)
      {code | code < 256 ^ width} := by
  intro code below code' below' less
  simp only [Set.mem_ofPred_eq] at below below'
  have grows : (code : ℤ) * scale < code' * scale := by
    exact_mod_cast Nat.mul_lt_mul_of_pos_right less positive
  have top : (code' : ℤ) * scale < 256 ^ width * scale := by
    exact_mod_cast Nat.mul_lt_mul_of_pos_right below' positive
  have unit' : (256 ^ width : ℤ) * scale ≤ 2 ^ 24 := by exact_mod_cast unit
  have nonneg : 0 ≤ (code : ℤ) * scale := by positivity
  have reversed : ∀ k : ℕ, ((k : ℤ) - 256 ^ width) * scale = k * scale - 256 ^ width * scale :=
    fun k => by ring
  simp only [reversedFracValue, packedTimeMake, reversed]
  split_ifs with first second second
  · rw [toLonglong_of_lt, toLonglong_of_lt] <;> omega
  · omega
  · rw [toLonglong_of_lt, toLonglong_of_lt] <;> omega
  · rw [toLonglong_of_lt, toLonglong_of_lt] <;> omega

/-- The value read back from an integer part and a stored fraction lies between that integer
part and the next. -/
theorem reversedFracValue_mem (width scale : ℕ) (positive : 0 < scale)
    (unit : 256 ^ width * scale ≤ 2 ^ 24) {q : ℤ} (low : -2 ^ 23 ≤ q) (high : q < 2 ^ 23)
    {code : ℕ} (below : code < 256 ^ width) :
    q * 2 ^ 24 ≤ reversedFracValue width scale q code ∧
      reversedFracValue width scale q code < (q + 1) * 2 ^ 24 := by
  have top : (code : ℤ) * scale < 256 ^ width * scale := by
    exact_mod_cast Nat.mul_lt_mul_of_pos_right below positive
  have unit' : (256 ^ width : ℤ) * scale ≤ 2 ^ 24 := by exact_mod_cast unit
  have nonneg : 0 ≤ (code : ℤ) * scale := by positivity
  have reversed : ((code : ℤ) - 256 ^ width) * scale = code * scale - 256 ^ width * scale := by
    ring
  simp only [reversedFracValue, packedTimeMake, reversed]
  split_ifs
  · rw [toLonglong_of_lt] <;> omega
  · rw [toLonglong_of_lt] <;> omega

/-- Stored as `my_time_packed_to_binary` stores precisions 1 to 4, two packed `TIME` numbers
compare as the numbers. -/
theorem compare_reversedFrac (width scale : ℕ) (positive : 0 < scale)
    (unit : 256 ^ width * scale ≤ 2 ^ 24) (neg neg' : Bool) {intPart frac intPart' frac' : ℕ}
    (intSmall : intPart < 2 ^ 22) (fracSmall : frac < 2 ^ 24) (rounded : scale ∣ frac)
    (codeSmall : frac / scale < 256 ^ width) (intSmall' : intPart' < 2 ^ 22)
    (fracSmall' : frac' < 2 ^ 24) (rounded' : scale ∣ frac')
    (codeSmall' : frac' / scale < 256 ^ width) :
    compare
        (intStore 3 (timefIntOfs + packedTimeGetIntPart (signed neg (intPart * 2 ^ 24 + frac))) ++
          intStore width
            ((packedTimeGetFracPart (signed neg (intPart * 2 ^ 24 + frac))).tdiv scale))
        (intStore 3 (timefIntOfs + packedTimeGetIntPart (signed neg' (intPart' * 2 ^ 24 + frac'))) ++
          intStore width
            ((packedTimeGetFracPart (signed neg' (intPart' * 2 ^ 24 + frac'))).tdiv scale)) =
      compare (signed neg (intPart * 2 ^ 24 + frac)) (signed neg' (intPart' * 2 ^ 24 + frac')) := by
  obtain ⟨low, high⟩ := getIntPart_bounds neg intSmall fracSmall
  obtain ⟨low', high'⟩ := getIntPart_bounds neg' intSmall' fracSmall'
  have across : ∀ {q q' : ℤ} {code code' : ℕ}, q ∈ {q : ℤ | -2 ^ 23 ≤ q ∧ q < 2 ^ 23} →
      q' ∈ {q : ℤ | -2 ^ 23 ≤ q ∧ q < 2 ^ 23} → q < q' → code ∈ {code | code < 256 ^ width} →
      code' ∈ {code | code < 256 ^ width} →
      reversedFracValue width scale q code < reversedFracValue width scale q' code' := by
    intro q q' code code' inside inside' less member member'
    have upper := (reversedFracValue_mem width scale positive unit inside.1 inside.2 member).2
    have lower := (reversedFracValue_mem width scale positive unit inside'.1 inside'.2 member').1
    have step : (q + 1) * 2 ^ 24 ≤ q' * 2 ^ 24 := by omega
    exact lt_of_lt_of_le upper (le_trans step lower)
  rw [Positional.compare_append _ _ _ _ (by rw [length_intStore, length_intStore]),
    compare_intStore, compare_intStore, compare_timefInt low high low' high',
    ← Positional.compare_decode (fun q (code : ℕ) => reversedFracValue width scale q code)
      {q | -2 ^ 23 ≤ q ∧ q < 2 ^ 23} {code | code < 256 ^ width}
      (fun q inside => reversedFracValue_strictMonoOn width scale positive unit inside.1 inside.2)
      across ⟨low, high⟩ ⟨low', high'⟩ (toNat_emod_lt width _) (toNat_emod_lt width _),
    reversedFracValue_parts width scale neg intPart frac positive intSmall fracSmall rounded
      codeSmall,
    reversedFracValue_parts width scale neg' intPart' frac' positive intSmall' fracSmall' rounded'
      codeSmall']

theorem compare_myTimePackedToBinary {dec : ℕ} (precision : dec ≤ 6) (neg neg' : Bool)
    {intPart frac intPart' frac' : ℕ} (intSmall : intPart < 2 ^ 22) (fracSmall : frac ≤ 999999)
    (rounded : 10 ^ (6 - dec) ∣ frac) (intSmall' : intPart' < 2 ^ 22)
    (fracSmall' : frac' ≤ 999999) (rounded' : 10 ^ (6 - dec) ∣ frac') :
    compare (myTimePackedToBinary (signed neg (intPart * 2 ^ 24 + frac)) dec)
        (myTimePackedToBinary (signed neg' (intPart' * 2 ^ 24 + frac')) dec) =
      compare (signed neg (intPart * 2 ^ 24 + frac)) (signed neg' (intPart' * 2 ^ 24 + frac')) := by
  obtain ⟨low, high⟩ := getIntPart_bounds neg intSmall (by omega : frac < 2 ^ 24)
  obtain ⟨low', high'⟩ := getIntPart_bounds neg' intSmall' (by omega : frac' < 2 ^ 24)
  obtain rfl | rfl | rfl | rfl | rfl | rfl | rfl :
      dec = 0 ∨ dec = 1 ∨ dec = 2 ∨ dec = 3 ∨ dec = 4 ∨ dec = 5 ∨ dec = 6 := by omega
  · -- precision 0: both fractions are zero, and the integer parts order the numbers
    have zero : frac = 0 := Nat.eq_zero_of_dvd_of_lt rounded (by norm_num; omega)
    have zero' : frac' = 0 := Nat.eq_zero_of_dvd_of_lt rounded' (by norm_num; omega)
    subst zero zero'
    simp only [myTimePackedToBinary]
    rw [compare_intStore, compare_timefInt low high low' high', Nat.add_zero, Nat.add_zero,
      getIntPart_signed_mul, getIntPart_signed_mul, signed_mul, signed_mul, Nat.cast_pow,
      Nat.cast_ofNat, compare_mul_unit (by norm_num)]
  · simp only [myTimePackedToBinary]
    rw [← intStore_one, ← intStore_one]
    exact compare_reversedFrac 1 10000 (by norm_num) (by norm_num) neg neg' intSmall (by omega)
      (Nat.dvd_trans (by norm_num) rounded) (by omega) intSmall' (by omega)
      (Nat.dvd_trans (by norm_num) rounded') (by omega)
  · simp only [myTimePackedToBinary]
    rw [← intStore_one, ← intStore_one]
    exact compare_reversedFrac 1 10000 (by norm_num) (by norm_num) neg neg' intSmall (by omega)
      rounded (by omega) intSmall' (by omega) rounded' (by omega)
  · simp only [myTimePackedToBinary]
    exact compare_reversedFrac 2 100 (by norm_num) (by norm_num) neg neg' intSmall (by omega)
      (Nat.dvd_trans (by norm_num) rounded) (by omega) intSmall' (by omega)
      (Nat.dvd_trans (by norm_num) rounded') (by omega)
  · simp only [myTimePackedToBinary]
    exact compare_reversedFrac 2 100 (by norm_num) (by norm_num) neg neg' intSmall (by omega)
      rounded (by omega) intSmall' (by omega) rounded' (by omega)
  all_goals
    have bounds := signed_bounds neg (intPart * 2 ^ 24 + frac)
    have bounds' := signed_bounds neg' (intPart' * 2 ^ 24 + frac')
    have modulus : (256 : ℤ) ^ 6 = 2 ^ 48 := by norm_num
    simp only [myTimePackedToBinary]
    rw [compare_intStore, add_comm _ timefOfs, add_comm _ timefOfs, modulus, timefOfs]
    exact compare_offset (by omega) (by omega) (by omega) (by omega)

end MariaDB.Temporal
