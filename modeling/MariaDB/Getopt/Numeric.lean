/-
Numeric values of options: `eval_num_suffix`, `getopt_ll`, `getopt_ull` and their limits in
`mysys/my_getopt.c`, on a 64-bit platform where `long` is `longlong`.

The text of a value is read by the C library's `strtoll` or `strtoull`; a suffix `K`, `M`, `G`,
`T`, `P` or `E` then multiplies the number by `2 ^ 10`, ..., `2 ^ 60` in unsigned 64-bit
arithmetic, with no check. The limits cut the number to `max_value` (when it is set) and to the
range of the variable's type, round it down to a multiple of `block_size` and raise it to
`min_value`.

An unsigned number that fits is limited as the options promise (`getoptUllLimitValue_eq`). The
product of a number and its suffix wraps instead of being cut: `16E` for an unsigned option is
`0`. And `getopt_ll_limit_value` divides a signed number by the unsigned block size in unsigned
arithmetic, so that a negative number comes back unrounded.
-/

import Mathlib
import MariaDB.Library.DecimalText
import MariaDB.Sql.IntArith

namespace MariaDB.Getopt

open DecimalText (isDigit digitsValue StartsWithNonDigit takeWhile_isDigit_append)
open Sql (IsLonglong toLonglong toULonglong longlongMin longlongMax ulonglongMax toULonglong_of_lt
  toULonglong_toLonglong toLonglong_of_isLonglong toULonglong_lt toULonglong_cases
  toULonglong_natCast toLonglong_eq_of_modEq)

/-! ### The C library -/

/-- `isspace` in the C locale. -/
def isspace (c : ℕ) : Bool := (9 ≤ c && c ≤ 13) || c == 0x20

/-- The spaces, the sign and the digits `strtoll` and `strtoull` read from the start of
`str`: whether the sign is a minus, the position of the digits, and the digits. -/
def numberParts (str : List ℕ) : Bool × ℕ × List ℕ :=
  let s := ((str.takeWhile isspace).length)
  let negative := str.getD s 0 = 0x2D
  let s := if negative ∨ str.getD s 0 = 0x2B then s + 1 else s
  (negative, s, (str.drop s).takeWhile isDigit)

/-- `strtoull(nptr, &endptr, 10)`: the value, negated modulo `2 ^ 64` after a minus; the
position `endptr` is left at, `0` when no digit is read; and whether `errno` is `ERANGE`, for a
number past `ULLONG_MAX`, which is then the value. -/
def strtoull (str : List ℕ) : ℕ × ℕ × Bool :=
  let (negative, s, digits) := numberParts str
  if digits = [] then (0, 0, false)
  else
    let value := digitsValue 0 digits
    if ulonglongMax < value then (ulonglongMax, s + digits.length, true)
    else (if negative then (2 ^ 64 - value) % 2 ^ 64 else value, s + digits.length, false)

/-- `strtoll(nptr, &endptr, 10)`, with the limits `LLONG_MIN` and `LLONG_MAX`. -/
def strtoll (str : List ℕ) : ℤ × ℕ × Bool :=
  let (negative, s, digits) := numberParts str
  if digits = [] then (0, 0, false)
  else
    let value := digitsValue 0 digits
    if negative then
      if 2 ^ 63 < value then (longlongMin, s + digits.length, true)
      else (-(value : ℤ), s + digits.length, false)
    else if longlongMax < value then (longlongMax, s + digits.length, true)
    else (value, s + digits.length, false)

/-! ### Suffixes -/

/-- `EXIT_UNKNOWN_SUFFIX`. -/
def exitUnknownSuffix : ℕ := 9

/-- `EXIT_ARGUMENT_INVALID`. -/
def exitArgumentInvalid : ℕ := 13

/-- `eval_num_suffix`: the factor of the byte after the number (`1` for the end of the text),
and `EXIT_UNKNOWN_SUFFIX` with the factor `0` for another byte. -/
def evalNumSuffix (suffix : ℕ) : ℕ × ℕ :=
  match suffix with
  | 0 => (1, 0)
  | 0x6B | 0x4B => (1 <<< 10, 0)
  | 0x6D | 0x4D => (1 <<< 20, 0)
  | 0x67 | 0x47 => (1 <<< 30, 0)
  | 0x74 | 0x54 => (1 <<< 40, 0)
  | 0x70 | 0x50 => (1 <<< 50, 0)
  | 0x65 | 0x45 => (1 <<< 60, 0)
  | _ => (0, exitUnknownSuffix)

/-- `eval_num_suffix_ll`: the number `strtoll` reads times the factor of its suffix, by
`num*= eval_num_suffix(...)` in unsigned arithmetic, and the error. -/
def evalNumSuffixLl (argument : List ℕ) : ℤ × ℕ :=
  let (num, endchar, erange) := strtoll argument
  if erange then (0, exitArgumentInvalid)
  else
    let (factor, error) := evalNumSuffix (argument.getD endchar 0)
    (toLonglong (num * factor), error)

/-- `eval_num_suffix_ull`. -/
def evalNumSuffixUll (argument : List ℕ) : ℕ × ℕ :=
  let (num, endchar, erange) := strtoull argument
  if erange then (0, exitArgumentInvalid)
  else
    let (factor, error) := evalNumSuffix (argument.getD endchar 0)
    (num * factor % 2 ^ 64, error)

/-! ### Limits -/

/-- The fields of `struct my_option` the numeric options read: the `longlong min_value`, the
`ulonglong max_value` and the `long block_size`. -/
structure MyOption where
  varType : ℕ
  minValue : ℤ
  maxValue : ℕ
  blockSize : ℤ
  minIsLonglong : IsLonglong minValue
  maxFits : maxValue ≤ ulonglongMax
  blockIsLong : IsLonglong blockSize

/-- Two options are equal when their numbers are: the other fields are proofs. -/
instance : DecidableEq MyOption := fun a b =>
  decidable_of_iff (a.varType = b.varType ∧ a.minValue = b.minValue ∧ a.maxValue = b.maxValue ∧
      a.blockSize = b.blockSize) (by
    constructor
    · intro same
      cases a
      cases b
      obtain ⟨rfl, rfl, rfl, rfl⟩ := same
      rfl
    · intro same
      subst same
      exact ⟨rfl, rfl, rfl, rfl⟩)

/-- `GET_INT`, `GET_UINT`, `GET_LONG`, `GET_ULONG`, `GET_LL` and `GET_ULL`. -/
def getInt : ℕ := 3

def getUint : ℕ := 4

def getLong : ℕ := 5

def getUlong : ℕ := 6

def getLl : ℕ := 7

def getUll : ℕ := 8

/-- `GET_TYPE_MASK`. -/
def getTypeMask : ℕ := 63

/-- `INT_MAX` and `UINT_MAX`. -/
def intMax : ℤ := 2 ^ 31 - 1

def uintMax : ℕ := 2 ^ 32 - 1

/-- `getopt_ll_limit_value(num, optp, fix)`: the value, and whether it was adjusted (the code's
warning; `*fix` is whether the value changed). A `long` is a `longlong`, so `GET_LONG` has no
limit of its own. -/
def getoptLlLimitValue (num : ℤ) (optp : MyOption) : ℤ × Bool :=
  let old := num
  let blockSize := if optp.blockSize ≠ 0 then toULonglong optp.blockSize else 1
  let (num, adjusted) :=
    if 0 < num ∧ optp.maxValue < toULonglong num ∧ optp.maxValue ≠ 0 then
      (toLonglong optp.maxValue, true)
    else (num, false)
  let (num, adjusted) :=
    if optp.varType &&& getTypeMask = getInt ∧ intMax < num then (intMax, true)
    else (num, adjusted)
  -- `num / block_size` and `num * block_size` convert the `longlong` to `ulonglong`
  let num := toLonglong (toULonglong num / blockSize)
  let num := toLonglong (toULonglong num * blockSize)
  if num < optp.minValue then (optp.minValue, adjusted || decide (old < optp.minValue))
  else (num, adjusted)

/-- `getopt_ull_limit_value(num, optp, fix)`. -/
def getoptUllLimitValue (num : ℕ) (optp : MyOption) : ℕ × Bool :=
  let old := num
  let (num, adjusted) :=
    if optp.maxValue < num ∧ optp.maxValue ≠ 0 then (optp.maxValue, true) else (num, false)
  let (num, adjusted) :=
    if optp.varType &&& getTypeMask = getUint ∧ uintMax < num then (uintMax, true)
    else (num, adjusted)
  let num :=
    if 1 < optp.blockSize then
      num / toULonglong optp.blockSize * toULonglong optp.blockSize
    else num
  if num < toULonglong optp.minValue then
    (toULonglong optp.minValue, adjusted || decide (old < toULonglong optp.minValue))
  else (num, adjusted)

/-- `getopt_ll`: the value and the error. -/
def getoptLl (arg : List ℕ) (optp : MyOption) : ℤ × ℕ :=
  let (num, err) := evalNumSuffixLl arg
  if err ≠ 0 then (0, err) else ((getoptLlLimitValue num optp).1, 0)

/-- `getopt_ull`. -/
def getoptUll (arg : List ℕ) (optp : MyOption) : ℕ × ℕ :=
  let (num, err) := evalNumSuffixUll arg
  if err ≠ 0 then (0, err) else ((getoptUllLimitValue num optp).1, 0)

/-! ### The values the options promise -/

/-- The range of the variable of an option type. -/
def typeRange (varType : ℕ) : ℤ × ℤ :=
  if varType = getInt then (-2 ^ 31, intMax)
  else if varType = getUint then (0, uintMax)
  else if varType = getUlong ∨ varType = getUll then (0, ulonglongMax)
  else (longlongMin, longlongMax)

/-- The value an option promises for the number `v` its argument denotes: `v` cut to `max_value`
when that is set and to the range of the variable, rounded down to a multiple of the block size,
and raised to `min_value`. -/
def promisedValue (v : ℤ) (optp : MyOption) : ℤ :=
  let (low, high) := typeRange (optp.varType &&& getTypeMask)
  let cut := max low (min high (if optp.maxValue ≠ 0 then min v optp.maxValue else v))
  max optp.minValue (optp.blockSize * (cut / optp.blockSize))

/-! ### Reading a number and its suffix -/

/-- Digits that fit in a `ulonglong`, followed by a byte that is not a digit, are read whole. -/
theorem strtoull_digits {digits rest : List ℕ} (allDigits : ∀ c ∈ digits, isDigit c = true)
    (nonempty : digits ≠ []) (stop : StartsWithNonDigit rest)
    (fits : digitsValue 0 digits ≤ ulonglongMax) :
    strtoull (digits ++ rest) = (digitsValue 0 digits, digits.length, false) := by
  obtain ⟨first, others, rfl⟩ := List.exists_cons_of_ne_nil nonempty
  have firstDigit := allDigits first List.mem_cons_self
  have notSpace : isspace first = false := by
    unfold isDigit at firstDigit
    unfold isspace
    simp only [Bool.and_eq_true, decide_eq_true_eq] at firstDigit
    simp only [Bool.or_eq_false_iff, Bool.and_eq_false_iff, decide_eq_false_iff_not,
      beq_eq_false_iff_ne]
    omega
  have noSign : ¬(first = 0x2D) ∧ ¬(first = 0x2B) := by
    unfold isDigit at firstDigit
    simp only [Bool.and_eq_true, decide_eq_true_eq] at firstDigit
    omega
  have noSpace : (first :: others ++ rest).takeWhile isspace = [] := by
    simp [notSpace]
  have front : (first :: others ++ rest).getD 0 0 = first := rfl
  unfold strtoull numberParts
  simp only [noSpace, List.length_nil, front, noSign, or_self, if_false, List.drop_zero]
  rw [takeWhile_isDigit_append allDigits stop, if_neg nonempty, if_neg (by omega)]
  simp

/-- An argument of digits that fit and a suffix: the number times the factor of the suffix,
modulo `2 ^ 64`. -/
theorem evalNumSuffixUll_digits {digits : List ℕ} {suffix : ℕ}
    (allDigits : ∀ c ∈ digits, isDigit c = true) (nonempty : digits ≠ [])
    (fits : digitsValue 0 digits ≤ ulonglongMax) (notDigit : isDigit suffix = false) :
    evalNumSuffixUll (digits ++ [suffix]) =
      (digitsValue 0 digits * (evalNumSuffix suffix).1 % 2 ^ 64, (evalNumSuffix suffix).2) := by
  have stop : StartsWithNonDigit [suffix] := fun c member => by
    cases member
    exact notDigit
  unfold evalNumSuffixUll
  rw [strtoull_digits allDigits nonempty stop fits]
  simp

/-! ### The limits -/

/-- Raising to a minimum is a maximum. -/
theorem raise_eq_max {α : Type} [LinearOrder α] (least value : α) :
    (if value < least then least else value) = max least value := by
  split_ifs with below
  · exact (max_eq_left below.le).symm
  · exact (max_eq_right (not_lt.mp below)).symm

theorem typeRange_getLl : typeRange getLl = (longlongMin, longlongMax) := rfl

theorem typeRange_getUll : typeRange getUll = (0, (ulonglongMax : ℤ)) := rfl

/-- A block size of at least one, as the `ulonglong` the limits divide by. -/
theorem blockSize_cast {optp : MyOption} (block : 1 ≤ optp.blockSize) :
    ((if optp.blockSize ≠ 0 then toULonglong optp.blockSize else 1 : ℕ) : ℤ) =
      optp.blockSize := by
  have blockRange := optp.blockIsLong
  unfold IsLonglong at blockRange
  rw [if_pos (by omega)]
  exact toULonglong_of_lt (by omega) (by omega)

/-- `(longlong) ((num / block_size) * block_size)` on a `ulonglong` number: the number less its
remainder, as a `longlong`. -/
theorem toLonglong_round (n b : ℕ) (small : n < 2 ^ 64) :
    toLonglong ((toULonglong (toLonglong ((n : ℤ) / b)) : ℤ) * b) =
      toLonglong ((n : ℤ) - (n : ℤ) % b) := by
  have quotient : (toULonglong (toLonglong ((n : ℤ) / b)) : ℤ) = (n : ℤ) / b := by
    have := Nat.div_le_self n b
    rw [← Int.natCast_div, toULonglong_toLonglong, toULonglong_natCast (by omega)]
  rw [quotient, Int.emod_def, sub_sub_cancel, Int.mul_comm]

/-- The value `getopt_ull_limit_value` returns, without the flag. -/
theorem getoptUllLimitValue_fst (num : ℕ) (optp : MyOption) :
    (getoptUllLimitValue num optp).1 =
      let cut := if optp.maxValue < num ∧ optp.maxValue ≠ 0 then optp.maxValue else num
      let cut := if optp.varType &&& getTypeMask = getUint ∧ uintMax < cut then uintMax else cut
      let rounded :=
        if 1 < optp.blockSize then
          cut / toULonglong optp.blockSize * toULonglong optp.blockSize
        else cut
      if rounded < toULonglong optp.minValue then toULonglong optp.minValue else rounded := by
  unfold getoptUllLimitValue
  dsimp only
  split_ifs <;> rfl

/-- The value `getopt_ll_limit_value` returns, without the flag. -/
theorem getoptLlLimitValue_fst (num : ℤ) (optp : MyOption) :
    (getoptLlLimitValue num optp).1 =
      let blockSize := if optp.blockSize ≠ 0 then toULonglong optp.blockSize else 1
      let cut := if 0 < num ∧ optp.maxValue < toULonglong num ∧ optp.maxValue ≠ 0 then
          toLonglong optp.maxValue
        else num
      let cut := if optp.varType &&& getTypeMask = getInt ∧ intMax < cut then intMax else cut
      let rounded :=
        toLonglong (toULonglong (toLonglong (toULonglong cut / blockSize)) * blockSize)
      if rounded < optp.minValue then optp.minValue else rounded := by
  unfold getoptLlLimitValue
  dsimp only
  split_ifs <;> rfl

/-- An unsigned number keeps the promise of a `GET_ULL` option whose minimum is not negative. -/
theorem getoptUllLimitValue_eq {num : ℕ} {optp : MyOption}
    (typed : optp.varType &&& getTypeMask = getUll) (minFits : 0 ≤ optp.minValue)
    (block : 1 ≤ optp.blockSize) (small : num ≤ ulonglongMax) :
    ((getoptUllLimitValue num optp).1 : ℤ) = promisedValue num optp := by
  have blockRange := optp.blockIsLong
  have minRange := optp.minIsLonglong
  have maxFits := optp.maxFits
  unfold IsLonglong at blockRange minRange
  unfold ulonglongMax at small maxFits
  have blockCast : (toULonglong optp.blockSize : ℤ) = optp.blockSize :=
    toULonglong_of_lt (by omega) (by omega)
  have minCast : (toULonglong optp.minValue : ℤ) = optp.minValue :=
    toULonglong_of_lt minFits (by omega)
  rw [getoptUllLimitValue_fst]
  unfold promisedValue
  simp only [typed, show getUll ≠ getUint by decide, false_and, if_false, typeRange_getUll]
  -- the number cut to `max_value` is the cut of the promise
  set cut := if optp.maxValue < num ∧ optp.maxValue ≠ 0 then optp.maxValue else num with cutDef
  have cutSpec : max 0 (min (ulonglongMax : ℤ)
      (if optp.maxValue ≠ 0 then min (num : ℤ) optp.maxValue else num)) = cut := by
    unfold ulonglongMax
    rw [cutDef]
    split_ifs <;> omega
  -- rounding down in `ulonglong` is rounding down in the integers
  have rounded : (((if 1 < optp.blockSize then
      cut / toULonglong optp.blockSize * toULonglong optp.blockSize else cut) : ℕ) : ℤ) =
      optp.blockSize * (cut / optp.blockSize) := by
    split_ifs
    · rw [Nat.cast_mul, Int.natCast_div, blockCast, Int.mul_comm]
    · rw [show optp.blockSize = 1 by omega, Int.ediv_one, Int.one_mul]
  rw [cutSpec, ← rounded]
  split_ifs <;> omega

/-- A number that is not negative keeps the promise of a `GET_LL` option. -/
theorem getoptLlLimitValue_of_nonneg {num : ℤ} {optp : MyOption}
    (typed : optp.varType &&& getTypeMask = getLl) (block : 1 ≤ optp.blockSize)
    (nonneg : 0 ≤ num) (isLonglong : IsLonglong num) :
    (getoptLlLimitValue num optp).1 = promisedValue num optp := by
  have maxFits := optp.maxFits
  unfold IsLonglong at isLonglong
  unfold ulonglongMax at maxFits
  rw [getoptLlLimitValue_fst]
  unfold promisedValue
  simp only [typed, show getLl ≠ getInt by decide, false_and, if_false, typeRange_getLl]
  -- the number cut to `max_value` is the cut of the promise, and not negative
  set cut := if 0 < num ∧ optp.maxValue < toULonglong num ∧ optp.maxValue ≠ 0 then
      toLonglong optp.maxValue else num with cutDef
  have numCast : (toULonglong num : ℤ) = num := toULonglong_of_lt nonneg (by omega)
  have cutSpec : max longlongMin (min longlongMax
      (if optp.maxValue ≠ 0 then min num optp.maxValue else num)) = cut ∧ 0 ≤ cut ∧
      cut < 2 ^ 63 := by
    unfold longlongMin longlongMax
    by_cases cutMax : 0 < num ∧ optp.maxValue < toULonglong num ∧ optp.maxValue ≠ 0
    · rw [cutDef, if_pos cutMax, toLonglong_of_isLonglong (by unfold IsLonglong; omega)]
      split_ifs <;> omega
    · rw [cutDef, if_neg cutMax]
      split_ifs <;> omega
  obtain ⟨promisedCut, cutNonneg, cutSmall⟩ := cutSpec
  have cutCast : (toULonglong cut : ℤ) = cut := toULonglong_of_lt cutNonneg (by omega)
  set blockSize := if optp.blockSize ≠ 0 then toULonglong optp.blockSize else 1 with blockDef
  have blockCast : (blockSize : ℤ) = optp.blockSize := blockSize_cast block
  -- the code's rounding is the floor of the promise
  have lower : 0 ≤ optp.blockSize * (cut / optp.blockSize) :=
    Int.mul_nonneg (by omega) (Int.ediv_nonneg cutNonneg (by omega))
  have upper : optp.blockSize * (cut / optp.blockSize) ≤ cut := by
    rw [Int.mul_comm]
    exact Int.ediv_mul_le cut (by omega)
  have rounded :
      toLonglong ((toULonglong (toLonglong ((toULonglong cut : ℤ) / blockSize)) : ℤ) *
        blockSize) = optp.blockSize * (cut / optp.blockSize) := by
    rw [toLonglong_round _ _ (toULonglong_lt cut), cutCast, blockCast, Int.emod_def,
      sub_sub_cancel]
    exact toLonglong_of_isLonglong (by unfold IsLonglong; omega)
  rw [promisedCut, rounded, raise_eq_max]

/-- A negative number of a `GET_LL` option: `num / block_size` in `ulonglong` divides
`num + 2 ^ 64`, so the number loses the remainder of `num + 2 ^ 64`, not its own. -/
theorem getoptLlLimitValue_of_neg {num : ℤ} {optp : MyOption}
    (typed : optp.varType &&& getTypeMask = getLl) (block : 1 ≤ optp.blockSize)
    (negative : num < 0) (isLonglong : IsLonglong num) :
    (getoptLlLimitValue num optp).1 =
      max optp.minValue (toLonglong (num - (2 ^ 64 + num) % optp.blockSize)) := by
  have numCast : (toULonglong num : ℤ) = 2 ^ 64 + num := by
    rcases toULonglong_cases isLonglong with ⟨_, cast⟩ | ⟨nonneg, _⟩
    · rw [cast, Int.add_comm]
    · omega
  have notPositive : ¬(0 < num ∧ optp.maxValue < toULonglong num ∧ optp.maxValue ≠ 0) :=
    fun positive => absurd positive.1 (by omega)
  rw [getoptLlLimitValue_fst]
  simp only [typed, show getLl ≠ getInt by decide, false_and, if_false, notPositive]
  have blockCast := blockSize_cast block
  rw [toLonglong_round _ _ (toULonglong_lt num), numCast, blockCast, raise_eq_max]
  -- the two differ by `2 ^ 64`
  congr 1
  apply toLonglong_eq_of_modEq
  unfold Int.ModEq
  omega

/-- With a block size that divides `2 ^ 63`, a power of two, a negative number keeps the
promise too. -/
theorem getoptLlLimitValue_of_neg_of_dvd {num : ℤ} {optp : MyOption}
    (typed : optp.varType &&& getTypeMask = getLl) (block : 1 ≤ optp.blockSize)
    (powerOfTwo : optp.blockSize ∣ 2 ^ 63) (negative : num < 0) (isLonglong : IsLonglong num) :
    (getoptLlLimitValue num optp).1 = promisedValue num optp := by
  obtain ⟨quotient, half⟩ := powerOfTwo
  unfold IsLonglong at isLonglong
  -- `2 ^ 64` is a multiple of the block size, so the remainders agree
  have multiple : (2 ^ 64 : ℤ) = optp.blockSize * (2 * quotient) := by
    rw [← Int.mul_assoc, Int.mul_comm optp.blockSize 2, Int.mul_assoc, ← half]
    omega
  have remainder : (2 ^ 64 + num) % optp.blockSize = num % optp.blockSize := by
    rw [multiple, Int.add_comm, Int.add_mul_emod_self_left]
  -- `-2 ^ 63` is a multiple of the block size below `num`, so the floor is not below it
  have floorBound : -2 ^ 63 ≤ optp.blockSize * (num / optp.blockSize) := by
    have least : -quotient ≤ num / optp.blockSize :=
      Int.le_ediv_of_mul_le (by omega) (by rw [Int.neg_mul, Int.mul_comm, ← half]; omega)
    have := Int.mul_le_mul_of_nonneg_left least (show 0 ≤ optp.blockSize by omega)
    rw [Int.mul_neg, ← half] at this
    exact this
  have floorUpper : optp.blockSize * (num / optp.blockSize) ≤ num := by
    rw [Int.mul_comm]
    exact Int.ediv_mul_le num (by omega)
  rw [getoptLlLimitValue_of_neg typed block negative isLonglong, remainder, Int.emod_def,
    sub_sub_cancel, toLonglong_of_isLonglong (by unfold IsLonglong; omega)]
  unfold promisedValue
  simp only [typed, typeRange_getLl]
  have cut : max longlongMin (min longlongMax
      (if optp.maxValue ≠ 0 then min num optp.maxValue else num)) = num := by
    unfold longlongMin longlongMax
    split_ifs <;> omega
  rw [cut]

/-! ### The values of the options -/

/-- A `GET_ULL` option whose minimum is not negative: a number that fits is limited as the
option promises, and `getopt_ull` on digits and a suffix limits the number times the factor of
the suffix modulo `2 ^ 64`, or answers the error of an unknown suffix. -/
theorem getopt_ull_values {optp : MyOption} (typed : optp.varType &&& getTypeMask = getUll)
    (minFits : 0 ≤ optp.minValue) (block : 1 ≤ optp.blockSize) :
    (∀ num, num ≤ ulonglongMax → ((getoptUllLimitValue num optp).1 : ℤ) = promisedValue num optp) ∧
      ∀ digits suffix, (∀ c ∈ digits, isDigit c = true) → digits ≠ [] →
        digitsValue 0 digits ≤ ulonglongMax → isDigit suffix = false →
        getoptUll (digits ++ [suffix]) optp =
          if (evalNumSuffix suffix).2 = 0 then
            ((getoptUllLimitValue (digitsValue 0 digits * (evalNumSuffix suffix).1 % 2 ^ 64)
              optp).1, 0)
          else (0, (evalNumSuffix suffix).2) := by
  refine ⟨fun num small => getoptUllLimitValue_eq typed minFits block small, ?_⟩
  intro digits suffix allDigits nonempty fits notDigit
  unfold getoptUll
  rw [evalNumSuffixUll_digits allDigits nonempty fits notDigit]
  by_cases known : (evalNumSuffix suffix).2 = 0 <;> simp [known]

/-- `2K` for a `GET_ULL` option up to `4096` in blocks of `1024`, and the number `5000`. -/
theorem getopt_ull_values_kilobytes :
    ((getoptUllLimitValue 5000 ⟨getUll, 0, 4096, 1024, by decide, by decide, by decide⟩).1 : ℤ) =
        promisedValue 5000 ⟨getUll, 0, 4096, 1024, by decide, by decide, by decide⟩ ∧
      getoptUll ([0x32] ++ [0x4B]) ⟨getUll, 0, 4096, 1024, by decide, by decide, by decide⟩ =
        if (evalNumSuffix 0x4B).2 = 0 then
          ((getoptUllLimitValue (digitsValue 0 [0x32] * (evalNumSuffix 0x4B).1 % 2 ^ 64)
            ⟨getUll, 0, 4096, 1024, by decide, by decide, by decide⟩).1, 0)
        else (0, (evalNumSuffix 0x4B).2) :=
  ⟨(@getopt_ull_values ⟨getUll, 0, 4096, 1024, by decide, by decide, by decide⟩ (by decide)
      (by decide) (by decide)).1 5000 (by decide),
    (@getopt_ull_values ⟨getUll, 0, 4096, 1024, by decide, by decide, by decide⟩ (by decide)
      (by decide) (by decide)).2 [0x32] 0x4B (by decide) (by decide) (by decide) (by decide)⟩

/-- A `GET_LL` option: `getopt_ll_limit_value` keeps the promise for a number that is not
negative; a negative number loses the remainder of `num + 2 ^ 64` by the block size instead of
its own, which is the promise again when the block size divides `2 ^ 63`. -/
theorem getopt_ll_values {optp : MyOption} (typed : optp.varType &&& getTypeMask = getLl)
    (block : 1 ≤ optp.blockSize) {num : ℤ} (isLonglong : IsLonglong num) :
    (getoptLlLimitValue num optp).1 =
        (if 0 ≤ num then promisedValue num optp
        else max optp.minValue (toLonglong (num - (2 ^ 64 + num) % optp.blockSize))) ∧
      (optp.blockSize ∣ 2 ^ 63 → (getoptLlLimitValue num optp).1 = promisedValue num optp) := by
  constructor
  · split_ifs with nonneg
    · exact getoptLlLimitValue_of_nonneg typed block nonneg isLonglong
    · exact getoptLlLimitValue_of_neg typed block (by omega) isLonglong
  · intro powerOfTwo
    rcases Int.lt_or_le num 0 with negative | nonneg
    · exact getoptLlLimitValue_of_neg_of_dvd typed block powerOfTwo negative isLonglong
    · exact getoptLlLimitValue_of_nonneg typed block nonneg isLonglong

/-- `-1` for a `GET_LL` option from `-10` to `10` in blocks of `4`. -/
theorem getopt_ll_values_minus_one :
    (getoptLlLimitValue (-1) ⟨getLl, -10, 10, 4, by decide, by decide, by decide⟩).1 =
        (if 0 ≤ (-1 : ℤ) then promisedValue (-1) ⟨getLl, -10, 10, 4, by decide, by decide, by decide⟩
        else max (-10) (toLonglong (-1 - (2 ^ 64 + -1) % 4))) ∧
      (getoptLlLimitValue (-1) ⟨getLl, -10, 10, 4, by decide, by decide, by decide⟩).1 =
        promisedValue (-1) ⟨getLl, -10, 10, 4, by decide, by decide, by decide⟩ :=
  ⟨(@getopt_ll_values ⟨getLl, -10, 10, 4, by decide, by decide, by decide⟩ (by decide)
      (by decide) (-1) (by decide)).1,
    (@getopt_ll_values ⟨getLl, -10, 10, 4, by decide, by decide, by decide⟩ (by decide)
      (by decide) (-1) (by decide)).2 (by decide)⟩

/-! ### Where the code leaves the promise -/

/-- `--option=16E` for an unbounded `GET_ULL` option: `16 * 2 ^ 60` wraps to `0`, which
`getopt_ull` returns with no error, where the promise is `ULONGLONG_MAX`. And `--option=-1` for a
`GET_LL` option from `-10` to `10` in blocks of `3` comes back as `-1`, not the multiple `-3`. -/
theorem getopt_values_wrap :
    getoptUll [0x31, 0x36, 0x45] ⟨getUll, 0, 0, 1, by decide, by decide, by decide⟩ = (0, 0) ∧
      promisedValue (16 * 2 ^ 60) ⟨getUll, 0, 0, 1, by decide, by decide, by decide⟩ =
        ulonglongMax ∧
      getoptLl [0x2D, 0x31] ⟨getLl, -10, 10, 3, by decide, by decide, by decide⟩ = (-1, 0) ∧
      promisedValue (-1) ⟨getLl, -10, 10, 3, by decide, by decide, by decide⟩ = -3 :=
  ⟨by decide, by decide, by decide, by decide⟩

end MariaDB.Getopt
