/-
Integer arithmetic of SQL expressions, `sql/item_func.cc` and `sql/sql_type_int.h`.

An integer operand is what `val_int()` returns, a `longlong`, with the `unsigned_flag` of its
`Item`: the bits of an unsigned operand stand for a `ulonglong`. `Item_func_plus`,
`Item_func_minus`, `Item_func_mul`, `Item_func_int_div`, `Item_func_mod` and `Item_func_neg`
compute on such pairs with the helpers of `sql_type_int.h`, and `check_integer_overflow` gives
the result back in the format of the `Item`'s own `unsigned_flag`, or raises
`ER_DATA_OUT_OF_RANGE`.

A `longlong` is an integer in `[-2^63, 2^63)` and a `ulonglong` a natural number below `2^64`;
casts between them, and arithmetic in either, are taken modulo `2^64`. Signed arithmetic that
overflows is undefined in C; it is taken to wrap as well, as the compiled code does.

Each operation is compared with `exactValInt`: the exact result in the format of the `Item`
when the `Item`'s range holds it, the error otherwise. Addition, multiplication, `DIV`, `MOD`
and negation are exact. Subtraction is exact except in two cases: `0 - LONGLONG_MIN` of two
signed operands wraps to `LONGLONG_MIN`, and two unsigned operands with a negative difference
raise the error even for a signed `Item` (under `NO_UNSIGNED_SUBTRACTION`) that holds it.
-/

import Mathlib.Data.Int.ModEq
import MariaDB.Library.SignMagnitude

namespace MariaDB.Sql

open SignMagnitude

/-! ### Machine integers -/

/-- `LONGLONG_MIN`. -/
def longlongMin : ℤ := -2 ^ 63

/-- `LONGLONG_MAX`. -/
def longlongMax : ℤ := 2 ^ 63 - 1

/-- `ULONGLONG_MAX`. -/
def ulonglongMax : ℕ := 2 ^ 64 - 1

/-- A `longlong`. -/
def IsLonglong (x : ℤ) : Prop := -2 ^ 63 ≤ x ∧ x < 2 ^ 63

instance (x : ℤ) : Decidable (IsLonglong x) := inferInstanceAs (Decidable (_ ∧ _))

/-- `(ulonglong) x`. -/
def toULonglong (x : ℤ) : ℕ := (x % 2 ^ 64).toNat

/-- `(longlong) x`: the `longlong` with the low 64 bits of `x`. -/
def toLonglong (x : ℤ) : ℤ := (x + 2 ^ 63) % 2 ^ 64 - 2 ^ 63

/-- `x - y` in `ulonglong`. -/
def ulonglongSub (x y : ℕ) : ℕ := (x + (2 ^ 64 - y)) % 2 ^ 64

theorem toLonglong_isLonglong (x : ℤ) : IsLonglong (toLonglong x) := by
  unfold IsLonglong toLonglong
  omega

@[simp] theorem toULonglong_longlongMax : toULonglong longlongMax = 2 ^ 63 - 1 := rfl

@[simp] theorem toULonglong_longlongMin : toULonglong longlongMin = 2 ^ 63 := rfl

/-- `ULonglong::test_if_sum_overflows_ull`. -/
def testIfSumOverflowsUll (arg1 arg2 : ℕ) : Bool := ulonglongMax - arg1 < arg2

/-- `Longlong::abs`. -/
def Longlong.abs (value : ℤ) : ℕ :=
  if value = longlongMin then toULonglong longlongMax + 1 else value.natAbs

/-- `ULonglong::operator-`: the negated value as a `Longlong_null`. -/
def ULonglong.neg (value : ℕ) : Option ℤ :=
  if value > toULonglong longlongMax then
    if value = toULonglong longlongMax + 1 then some longlongMin else none
  else some (-(value : ℤ))

/-- `ULonglong::to_longlong_null`. -/
def ULonglong.toLonglongNull (value : ℕ) : Option ℤ :=
  if value > toULonglong longlongMax then none else some value

/-- `ULonglong_null::ullmul`: the product of two `ulonglong`s, or NULL when it overflows,
computed from the halves of the factors. -/
def ullmul (a b : ℕ) : Option ℕ :=
  let a1 := a / 2 ^ 32
  let b1 := b / 2 ^ 32
  if a1 ≠ 0 ∧ b1 ≠ 0 then none
  else
    let a0 := a % 2 ^ 32
    let b0 := b % 2 ^ 32
    let res1 := a1 * b0 + a0 * b1
    if res1 > 0xFFFFFFFF then none
    else
      let res1 := res1 * 2 ^ 32
      let res0 := a0 * b0
      if testIfSumOverflowsUll res1 res0 then none else some (res1 + res0)

/-! ### Hybrids -/

/-- `Longlong_hybrid`: a `longlong` and whether its bits stand for a `ulonglong`. -/
structure LonglongHybrid where
  value : ℤ
  unsigned : Bool
  isLonglong : IsLonglong value
  deriving DecidableEq

namespace LonglongHybrid

/-- `Longlong_hybrid(x, unsigned)` of a value computed in `longlong` or `ulonglong`. -/
def ofBits (x : ℤ) (unsigned : Bool) : LonglongHybrid := ⟨toLonglong x, unsigned, toLonglong_isLonglong x⟩

def neg (h : LonglongHybrid) : Bool := h.value < 0 && !h.unsigned

def abs (h : LonglongHybrid) : ℕ := if h.unsigned then toULonglong h.value else Longlong.abs h.value

def valIntSigned (h : LonglongHybrid) : Option ℤ :=
  if h.unsigned then ULonglong.toLonglongNull (toULonglong h.value) else some h.value

def valIntUnsigned (h : LonglongHybrid) : Option ℤ :=
  if !h.unsigned && h.value < 0 then none else some h.value

def valInt (h : LonglongHybrid) (wantUnsignedValue : Bool) : Option ℤ :=
  if wantUnsignedValue then h.valIntUnsigned else h.valIntSigned

def isUnsignedOutsideOfSignedRange (h : LonglongHybrid) : Bool :=
  h.unsigned && toULonglong h.value > toULonglong longlongMax

def cmpSigned (h other : LonglongHybrid) : ℤ :=
  if h.value < other.value then -1 else if h.value = other.value then 0 else 1

def cmpUnsigned (h other : LonglongHybrid) : ℤ :=
  if toULonglong h.value < toULonglong other.value then -1
  else if h.value = other.value then 0 else 1

def cmp (h other : LonglongHybrid) : ℤ :=
  if h.unsigned = other.unsigned then
    if h.unsigned then h.cmpUnsigned other else h.cmpSigned other
  else if h.isUnsignedOutsideOfSignedRange then 1
  else if other.isUnsignedOutsideOfSignedRange then -1
  else h.cmpSigned other

/-- `operator==(int nr)`. -/
def eqInt (h : LonglongHybrid) (nr : ℤ) (small : IsLonglong nr) : Bool :=
  h.cmp ⟨nr, false, small⟩ = 0

/-- The number the hybrid stands for. -/
def toInt (h : LonglongHybrid) : ℤ := if h.unsigned then toULonglong h.value else h.value

end LonglongHybrid

/-- `ULonglong_hybrid`: a `ulonglong` magnitude and a sign, never a negative zero. -/
structure ULonglongHybrid where
  value : ℕ
  neg : Bool
  isULonglong : value < 2 ^ 64
  negPositive : neg = true → 0 < value

namespace ULonglongHybrid

/-- The constructor `ULonglong_hybrid(value, neg)`, which turns `-0` into `+0`. -/
def make (value : ℕ) (neg : Bool) (small : value < 2 ^ 64) : ULonglongHybrid :=
  ⟨value, neg && value != 0, small, by simp only [Bool.and_eq_true, bne_iff_ne]; omega⟩

def valIntUnsigned (h : ULonglongHybrid) : Option ℤ :=
  if h.neg then none else some (toLonglong h.value)

def valIntSigned (h : ULonglongHybrid) : Option ℤ :=
  if h.neg then ULonglong.neg h.value else ULonglong.toLonglongNull h.value

def valInt (h : ULonglongHybrid) (wantUnsignedValue : Bool) : Option ℤ :=
  if wantUnsignedValue then h.valIntUnsigned else h.valIntSigned

/-- The number the hybrid stands for. -/
def toInt (h : ULonglongHybrid) : ℤ := signed h.neg h.value

end ULonglongHybrid

/-! ### The operations -/

/-- What `val_int()` of an integer `Item` gives: a `longlong`, `ER_DATA_OUT_OF_RANGE` (raised by
`raise_integer_overflow`, which returns `0`), or NULL after a division by zero. -/
inductive ValInt
  | ok (value : ℤ)
  | outOfRange
  | null
  deriving DecidableEq, Repr

/-- `Item_func::check_integer_overflow` of a `Longlong_hybrid`. -/
def checkIntegerOverflow (unsignedFlag : Bool) (sval : LonglongHybrid) : ValInt :=
  match sval.valInt unsignedFlag with
  | none => .outOfRange
  | some value => .ok value

/-- `Item_func::check_integer_overflow` of a `ULonglong_hybrid`. -/
def checkIntegerOverflowU (unsignedFlag : Bool) (uval : ULonglongHybrid) : ValInt :=
  match uval.valInt unsignedFlag with
  | none => .outOfRange
  | some value => .ok value

/-- The first half of `Item_func_plus::int_op`: whether the sum is a `ulonglong`, or `none` for
`goto err`. -/
def ItemFuncPlus.resUnsigned (a b : LonglongHybrid) : Option Bool :=
  if a.unsigned then
    if b.unsigned || 0 ≤ b.value then
      if testIfSumOverflowsUll (toULonglong a.value) (toULonglong b.value) then none else some true
    else some (toULonglong a.value > toULonglong longlongMax)
  else if b.unsigned then
    if 0 ≤ a.value then
      if testIfSumOverflowsUll (toULonglong a.value) (toULonglong b.value) then none else some true
    else some (toULonglong b.value > toULonglong longlongMax)
  else if 0 ≤ a.value ∧ 0 ≤ b.value then some true
  else if a.value < 0 ∧ b.value < 0 ∧ a.value < longlongMin - b.value then none
  else some false

/-- `Item_func_plus::int_op`, for operands that are not NULL. -/
def ItemFuncPlus.intOp (unsignedFlag : Bool) (a b : LonglongHybrid) : ValInt :=
  match ItemFuncPlus.resUnsigned a b with
  | none => .outOfRange
  | some true =>
    checkIntegerOverflow unsignedFlag (.ofBits (toULonglong a.value + toULonglong b.value) true)
  | some false => checkIntegerOverflow unsignedFlag (.ofBits (a.value + b.value) false)

/-- The first half of `Item_func_minus::int_op`. -/
def ItemFuncMinus.resUnsigned (a b : LonglongHybrid) : Option Bool :=
  if a.unsigned then
    if b.unsigned then
      if toULonglong a.value < toULonglong b.value then none else some true
    else if 0 ≤ b.value then some (toULonglong a.value > toULonglong b.value)
    else if testIfSumOverflowsUll (toULonglong a.value) (toULonglong (toLonglong (-b.value))) then none
    else some true
  else if b.unsigned then
    if ulonglongSub (toULonglong a.value) (toULonglong longlongMin) < toULonglong b.value then none
    else some false
  else if 0 < a.value ∧ b.value < 0 then some true
  else if a.value < 0 ∧ 0 < b.value ∧ a.value < longlongMin + b.value then none
  else some false

/-- `Item_func_minus::int_op`, for operands that are not NULL. -/
def ItemFuncMinus.intOp (unsignedFlag : Bool) (a b : LonglongHybrid) : ValInt :=
  match ItemFuncMinus.resUnsigned a b with
  | none => .outOfRange
  | some true =>
    checkIntegerOverflow unsignedFlag
      (.ofBits (ulonglongSub (toULonglong a.value) (toULonglong b.value)) true)
  | some false => checkIntegerOverflow unsignedFlag (.ofBits (a.value - b.value) false)

theorem ullmul_lt {a b u : ℕ} (product : ullmul a b = some u) : u < 2 ^ 64 := by
  unfold ullmul testIfSumOverflowsUll ulonglongMax at product
  dsimp only at product
  split_ifs at product with _ small fits
  cases product
  rw [decide_eq_true_eq] at fits
  omega

/-- `Item_func_mul::int_op`, for operands that are not NULL. -/
def ItemFuncMul.intOp (unsignedFlag : Bool) (a b : LonglongHybrid) : ValInt :=
  match product : ullmul a.abs b.abs with
  | none => .outOfRange
  | some ures =>
    checkIntegerOverflowU unsignedFlag (.make ures (a.neg != b.neg) (ullmul_lt product))

theorem LonglongHybrid.abs_lt (h : LonglongHybrid) : h.abs < 2 ^ 64 := by
  have range := h.isLonglong
  unfold IsLonglong at range
  unfold abs Longlong.abs
  split_ifs
  · unfold toULonglong
    omega
  · simp
  · omega

/-- The `INT_RESULT` branch of `Item_func_int_div::val_int`, for operands that are not NULL. -/
def ItemFuncIntDiv.valInt (unsignedFlag : Bool) (a b : LonglongHybrid) : ValInt :=
  if b.eqInt 0 (by decide) then .null
  else
    checkIntegerOverflowU unsignedFlag
      (.make (a.abs / b.abs) (a.neg != b.neg) (Nat.lt_of_le_of_lt (Nat.div_le_self _ _) a.abs_lt))

/-- `Item_func_mod::int_op`, for operands that are not NULL: the remainder of the magnitudes,
with the sign of the dividend. -/
def ItemFuncMod.intOp (unsignedFlag : Bool) (a b : LonglongHybrid) : ValInt :=
  if b.eqInt 0 (by decide) then .null
  else
    checkIntegerOverflowU unsignedFlag
      (.make (a.abs % b.abs) a.neg (Nat.lt_of_le_of_lt (Nat.mod_le _ _) a.abs_lt))

/-- `Item_func_neg::int_op`, for an operand that is not NULL. -/
def ItemFuncNeg.intOp (unsignedFlag : Bool) (a : LonglongHybrid) : ValInt :=
  let value := a.value
  if a.unsigned ∧ toULonglong value > toULonglong longlongMax + 1 then .outOfRange
  else if value = longlongMin then
    -- the negation of `LONGLONG_MIN` is `LONGLONG_MIN`, in the other signedness
    if a.unsigned ≠ unsignedFlag then .ok longlongMin else .outOfRange
  else checkIntegerOverflow unsignedFlag (.ofBits (-value) (!a.unsigned && value < 0))

/-! ### What the operations should give -/

/-- Whether `v` is a `ulonglong` (for `unsigned`) or a `longlong`. -/
def inRange (unsigned : Bool) (v : ℤ) : Bool :=
  if unsigned then 0 ≤ v && v < 2 ^ 64 else -2 ^ 63 ≤ v && v < 2 ^ 63

/-- What an integer `Item` should give for the exact result `v`: `v` in the format of its
`unsigned_flag` when its range holds `v`, `ER_DATA_OUT_OF_RANGE` otherwise. -/
def exactValInt (unsignedFlag : Bool) (v : ℤ) : ValInt :=
  if inRange unsignedFlag v then .ok (toLonglong v) else .outOfRange

/-! ### Casts -/

section Casts

theorem toLonglong_eq_of_modEq {x y : ℤ} (same : x ≡ y [ZMOD 2 ^ 64]) :
    toLonglong x = toLonglong y := by
  unfold toLonglong
  unfold Int.ModEq at same
  omega

theorem toULonglong_modEq (x : ℤ) : (toULonglong x : ℤ) ≡ x [ZMOD 2 ^ 64] := by
  unfold toULonglong Int.ModEq
  omega

theorem ulonglongSub_modEq {x y : ℕ} (small : y ≤ 2 ^ 64) :
    (ulonglongSub x y : ℤ) ≡ x - y [ZMOD 2 ^ 64] := by
  unfold ulonglongSub Int.ModEq
  omega

/-- A `longlong` read as a `ulonglong`: itself when not negative, shifted by `2 ^ 64`
otherwise. -/
theorem toULonglong_cases {v : ℤ} (range : IsLonglong v) :
    (v < 0 ∧ (toULonglong v : ℤ) = v + 2 ^ 64) ∨ (0 ≤ v ∧ (toULonglong v : ℤ) = v) := by
  unfold IsLonglong at range
  unfold toULonglong
  omega

theorem toULonglong_lt (v : ℤ) : toULonglong v < 2 ^ 64 := by
  unfold toULonglong
  omega

theorem toULonglong_of_lt {x : ℤ} (low : 0 ≤ x) (high : x < 2 ^ 64) : (toULonglong x : ℤ) = x := by
  unfold toULonglong
  omega

theorem toLonglong_of_isLonglong {x : ℤ} (range : IsLonglong x) : toLonglong x = x := by
  unfold toLonglong
  unfold IsLonglong at range
  omega

theorem toULonglong_natCast {n : ℕ} (small : n < 2 ^ 64) : toULonglong n = n := by
  unfold toULonglong
  omega

theorem toULonglong_toLonglong (x : ℤ) : toULonglong (toLonglong x) = toULonglong x := by
  unfold toULonglong toLonglong
  omega

/-- The cast to `ulonglong` keeps the order of two `longlong`s of one sign and reverses it
across the signs: every negative one lands above every non-negative one. -/
theorem compare_toULonglong {x y : ℤ} (rangeX : IsLonglong x) (rangeY : IsLonglong y) :
    compare (toULonglong x) (toULonglong y) =
      if decide (x < 0) = decide (y < 0) then compare x y else compare y x := by
  rw [Nat.compare_eq_ite_lt, Int.compare_eq_ite_lt, Int.compare_eq_ite_lt]
  simp only [decide_eq_decide]
  have boundsX : IsLonglong x := rangeX
  have boundsY : IsLonglong y := rangeY
  unfold IsLonglong at boundsX boundsY
  rcases toULonglong_cases rangeX with ⟨signX, castX⟩ | ⟨signX, castX⟩ <;>
    rcases toULonglong_cases rangeY with ⟨signY, castY⟩ | ⟨signY, castY⟩ <;>
    split_ifs <;> first | rfl | omega

/-- `x - y` in `ulonglong`: the difference, or the difference shifted by `2 ^ 64` when it is
negative. -/
theorem ulonglongSub_cases {x y : ℕ} (smallX : x < 2 ^ 64) (smallY : y < 2 ^ 64) :
    (y ≤ x ∧ (ulonglongSub x y : ℤ) = x - y) ∨ (x < y ∧ (ulonglongSub x y : ℤ) = x - y + 2 ^ 64) := by
  unfold ulonglongSub
  omega

theorem ULonglong.toLonglongNull_eq (value : ℕ) :
    ULonglong.toLonglongNull value = if value < 2 ^ 63 then some (value : ℤ) else none := by
  unfold ULonglong.toLonglongNull
  rw [toULonglong_longlongMax]
  split_ifs <;> first | rfl | omega

end Casts

/-! ### What a hybrid stands for -/

namespace LonglongHybrid

variable (h : LonglongHybrid)

theorem toInt_of_unsigned {h : LonglongHybrid} (unsigned : h.unsigned = true) :
    h.toInt = toULonglong h.value := by
  rw [toInt, if_pos unsigned]

theorem toInt_of_signed {h : LonglongHybrid} (notUnsigned : h.unsigned = false) :
    h.toInt = h.value := by
  rw [toInt, if_neg (by simp [notUnsigned])]

theorem toInt_modEq : h.toInt ≡ h.value [ZMOD 2 ^ 64] := by
  unfold toInt
  split
  · exact toULonglong_modEq _
  · rfl

theorem toLonglong_toInt : toLonglong h.toInt = h.value := by
  obtain ⟨value, unsigned, range⟩ := h
  have bounds : -2 ^ 63 ≤ value ∧ value < 2 ^ 63 := range
  dsimp only [toInt, toULonglong, toLonglong]
  split <;> omega

/-- `val_int` gives the bits of the number a hybrid stands for when the wanted format holds it. -/
theorem valInt_eq (wantUnsignedValue : Bool) :
    h.valInt wantUnsignedValue =
      if inRange wantUnsignedValue h.toInt then some (toLonglong h.toInt) else none := by
  rw [toLonglong_toInt]
  obtain ⟨value, unsigned, range⟩ := h
  have bounds : -2 ^ 63 ≤ value ∧ value < 2 ^ 63 := range
  cases wantUnsignedValue <;> cases unsigned
  case false.false =>
    simp [valInt, valIntSigned, toInt, inRange]
    omega
  case false.true =>
    simp [valInt, valIntSigned, toInt, inRange, ULonglong.toLonglongNull_eq]
    split_ifs with small
    · unfold toULonglong at small ⊢
      rw [Option.some.injEq]
      omega
    · rfl
  case true.false =>
    simp [valInt, valIntUnsigned, toInt, inRange]
    by_cases negative : value < 0
    · rw [if_pos negative, if_neg (by omega)]
    · rw [if_neg negative, if_pos (by omega)]
  case true.true =>
    simp [valInt, valIntUnsigned, toInt, inRange, toULonglong]
    omega

/-- A value computed modulo `2 ^ 64` and taken in a format that holds the exact result stands
for the exact result. -/
theorem toInt_ofBits {x y : ℤ} {unsigned : Bool} (fits : inRange unsigned y = true)
    (same : x ≡ y [ZMOD 2 ^ 64]) : (ofBits x unsigned).toInt = y := by
  have wrapped := toLonglong_eq_of_modEq same
  unfold ofBits toInt
  unfold inRange at fits
  unfold toLonglong at wrapped
  unfold toLonglong toULonglong
  cases unsigned <;> simp at fits ⊢ <;> omega

theorem abs_eq : h.abs = h.toInt.natAbs := by
  obtain ⟨value, unsigned, range⟩ := h
  have bounds : -2 ^ 63 ≤ value ∧ value < 2 ^ 63 := range
  cases unsigned
  · simp only [abs, Longlong.abs, toInt, Bool.false_eq_true, if_false, toULonglong_longlongMax]
    split_ifs with least
    · unfold longlongMin at least
      omega
    · rfl
  · simp only [abs, toInt, if_true]
    omega

theorem neg_eq : h.neg = decide (h.toInt < 0) := by
  obtain ⟨value, unsigned, range⟩ := h
  cases unsigned
  · simp [neg, toInt]
  · simp [neg, toInt]

theorem eqInt_zero : h.eqInt 0 (by decide) = decide (h.toInt = 0) := by
  obtain ⟨value, unsigned, range⟩ := h
  have bounds : -2 ^ 63 ≤ value ∧ value < 2 ^ 63 := range
  cases unsigned
  · simp [eqInt, cmp, cmpSigned, toInt]
    split_ifs <;> simp <;> omega
  · simp [eqInt, cmp, cmpSigned, isUnsignedOutsideOfSignedRange, toInt, toULonglong_longlongMax]
    unfold toULonglong
    split_ifs <;> simp <;> omega

end LonglongHybrid

namespace ULonglongHybrid

variable (h : ULonglongHybrid)

/-- `val_int` gives the bits of the number a hybrid stands for when the wanted format holds it. -/
theorem valInt_eq (wantUnsignedValue : Bool) :
    h.valInt wantUnsignedValue =
      if inRange wantUnsignedValue h.toInt then some (toLonglong h.toInt) else none := by
  obtain ⟨value, neg, small, positive⟩ := h
  cases wantUnsignedValue <;> cases neg
  case false.false =>
    simp [valInt, valIntSigned, toInt, signed, inRange, ULonglong.toLonglongNull_eq, toLonglong]
    split_ifs
    · rw [Option.some.injEq]
      omega
    · rfl
  case false.true =>
    have nonzero := positive rfl
    simp [valInt, valIntSigned, toInt, signed, inRange, ULonglong.neg, toLonglong, longlongMin]
    by_cases least : value = 9223372036854775808
    · simp [least]
    · by_cases big : 9223372036854775807 < value
      · simp only [big, least, if_true, if_false]
        rw [if_neg (by omega)]
      · rw [if_neg big, if_pos (by omega), Option.some.injEq]
        omega
  case true.false =>
    simp [valInt, valIntUnsigned, toInt, signed, inRange]
    omega
  case true.true =>
    have nonzero := positive rfl
    simp [valInt, valIntUnsigned, toInt, signed, inRange]
    omega

theorem toInt_make (value : ℕ) (neg : Bool) (small : value < 2 ^ 64) :
    (make value neg small).toInt = signed neg value := by
  cases neg <;> by_cases zero : value = 0 <;> simp [make, toInt, signed, zero]

end ULonglongHybrid

/-- Both overloads of `check_integer_overflow` read the hybrid as the number it stands for. -/
theorem checkIntegerOverflow_eq (unsignedFlag : Bool) (sval : LonglongHybrid) :
    checkIntegerOverflow unsignedFlag sval = exactValInt unsignedFlag sval.toInt := by
  rw [checkIntegerOverflow, sval.valInt_eq, exactValInt]
  split_ifs <;> rfl

theorem checkIntegerOverflowU_eq (unsignedFlag : Bool) (uval : ULonglongHybrid) :
    checkIntegerOverflowU unsignedFlag uval = exactValInt unsignedFlag uval.toInt := by
  rw [checkIntegerOverflowU, uval.valInt_eq, exactValInt]
  split_ifs <;> rfl

@[simp] theorem inRange_true_eq_true {v : ℤ} : inRange true v = true ↔ 0 ≤ v ∧ v < 2 ^ 64 := by
  simp [inRange]

@[simp] theorem inRange_false_eq_true {v : ℤ} :
    inRange false v = true ↔ -2 ^ 63 ≤ v ∧ v < 2 ^ 63 := by
  simp [inRange]

@[simp] theorem inRange_true_eq_false {v : ℤ} : inRange true v = false ↔ v < 0 ∨ 2 ^ 64 ≤ v := by
  simp only [inRange, if_true, Bool.and_eq_false_iff, decide_eq_false_iff_not, not_le, not_lt]

@[simp] theorem inRange_false_eq_false {v : ℤ} :
    inRange false v = false ↔ v < -2 ^ 63 ∨ 2 ^ 63 ≤ v := by
  simp only [inRange, Bool.false_eq_true, if_false, Bool.and_eq_false_iff, decide_eq_false_iff_not,
    not_le, not_lt]

theorem testIfSumOverflowsUll_eq_true {x y : ℕ} (small : x < 2 ^ 64) :
    testIfSumOverflowsUll x y = true ↔ 2 ^ 64 ≤ x + y := by
  unfold testIfSumOverflowsUll ulonglongMax
  rw [decide_eq_true_iff]
  omega

theorem exactValInt_of_outside {unsignedFlag : Bool} {v : ℤ}
    (outside : inRange true v = false ∧ inRange false v = false) :
    exactValInt unsignedFlag v = .outOfRange := by
  unfold exactValInt
  cases unsignedFlag
  · rw [outside.2]
    rfl
  · rw [outside.1]
    rfl

/-- A number of magnitude `2 ^ 64` or more is in neither format. -/
theorem outside_of_natAbs {v : ℤ} (big : 2 ^ 64 ≤ v.natAbs) :
    inRange true v = false ∧ inRange false v = false := by
  simp only [inRange, if_true, Bool.false_eq_true, if_false, Bool.and_eq_false_iff,
    decide_eq_false_iff_not, not_le, not_lt]
  omega

/-! ### Addition -/

/-- The pre-check of `Item_func_plus::int_op` goes to `err` exactly when the sum is in neither
format, and otherwise picks a format that holds it. -/
theorem ItemFuncPlus.resUnsigned_spec (a b : LonglongHybrid) :
    match ItemFuncPlus.resUnsigned a b with
    | none => inRange true (a.toInt + b.toInt) = false ∧ inRange false (a.toInt + b.toInt) = false
    | some resUnsigned => inRange resUnsigned (a.toInt + b.toInt) = true := by
  obtain ⟨val0, unsigned0, range0⟩ := a
  obtain ⟨val1, unsigned1, range1⟩ := b
  have bounds0 : -2 ^ 63 ≤ val0 ∧ val0 < 2 ^ 63 := range0
  have bounds1 : -2 ^ 63 ≤ val1 ∧ val1 < 2 ^ 63 := range1
  unfold ItemFuncPlus.resUnsigned
  -- one case per signedness of the operands, then one per test of the pre-check
  cases unsigned0 <;> cases unsigned1
  all_goals
    simp only [Bool.false_eq_true, Bool.true_or, Bool.false_or, if_true, if_false]
    split_ifs <;>
      simp [LonglongHybrid.toInt, inRange, testIfSumOverflowsUll, ulonglongMax, longlongMin,
        longlongMax, toULonglong] at * <;>
      (try split_ifs) <;> omega

/-- `+` of two integers is exact. -/
theorem ItemFuncPlus.intOp_eq (unsignedFlag : Bool) (a b : LonglongHybrid) :
    ItemFuncPlus.intOp unsignedFlag a b = exactValInt unsignedFlag (a.toInt + b.toInt) := by
  have spec := ItemFuncPlus.resUnsigned_spec a b
  have sum : a.value + b.value ≡ a.toInt + b.toInt [ZMOD 2 ^ 64] :=
    (a.toInt_modEq.add b.toInt_modEq).symm
  unfold ItemFuncPlus.intOp
  split
  next overflow =>
    rw [overflow] at spec
    exact (exactValInt_of_outside spec).symm
  next asUnsigned =>
    rw [asUnsigned] at spec
    rw [checkIntegerOverflow_eq, LonglongHybrid.toInt_ofBits spec]
    exact ((toULonglong_modEq _).add (toULonglong_modEq _)).trans sum
  next asSigned =>
    rw [asSigned] at spec
    rw [checkIntegerOverflow_eq, LonglongHybrid.toInt_ofBits spec sum]

/-! ### Subtraction -/

/-- The pre-check of `Item_func_minus::int_op` goes to `err` when the difference is in neither
format, and also for two unsigned operands with a negative difference; otherwise it picks a
format that holds the difference, except for `0 - LONGLONG_MIN`, which it takes as a
`longlong`. -/
theorem ItemFuncMinus.resUnsigned_spec (a b : LonglongHybrid) :
    match ItemFuncMinus.resUnsigned a b with
    | none =>
      (inRange true (a.toInt - b.toInt) = false ∧ inRange false (a.toInt - b.toInt) = false) ∨
        (a.unsigned = true ∧ b.unsigned = true ∧ a.toInt < b.toInt)
    | some resUnsigned => inRange resUnsigned (a.toInt - b.toInt) = true ∨
        (a.unsigned = false ∧ b.unsigned = false ∧ a.value = 0 ∧ b.value = longlongMin) := by
  obtain ⟨val0, unsigned0, range0⟩ := a
  obtain ⟨val1, unsigned1, range1⟩ := b
  have bounds0 : -2 ^ 63 ≤ val0 ∧ val0 < 2 ^ 63 := range0
  have bounds1 : -2 ^ 63 ≤ val1 ∧ val1 < 2 ^ 63 := range1
  have cast0 := toULonglong_cases range0
  have cast1 := toULonglong_cases range1
  have least : longlongMin = -2 ^ 63 := rfl
  unfold ItemFuncMinus.resUnsigned
  cases unsigned0 <;> cases unsigned1 <;>
    simp only [LonglongHybrid.toInt, Bool.false_eq_true, if_true, if_false]
  case false.false =>
    -- two `longlong`s: the tests compare the values
    split_ifs <;> simp <;> omega
  case false.true =>
    -- `(ulonglong) val0 - (ulonglong) LONGLONG_MIN` is `val0 + 2 ^ 63`
    have shifted : (ulonglongSub (toULonglong val0) (toULonglong longlongMin) : ℤ) = val0 + 2 ^ 63 := by
      rw [toULonglong_longlongMin]
      rcases ulonglongSub_cases (toULonglong_lt val0) (by decide : 2 ^ 63 < 2 ^ 64) with
        ⟨_, eq⟩ | ⟨_, eq⟩ <;> omega
    have small1 := toULonglong_lt val1
    split_ifs with overflow <;> simp <;> omega
  case true.false =>
    have small0 := toULonglong_lt val0
    split_ifs with positive overflow
    · by_cases greater : toULonglong val0 > toULonglong val1
      · rw [decide_eq_true greater]
        simp
        omega
      · rw [decide_eq_false greater]
        simp
        omega
    · -- `-val1` is a `ulonglong` below `2 ^ 63` or exactly `2 ^ 63`
      have negated : (toULonglong (toLonglong (-val1)) : ℤ) = -val1 := by
        rw [toULonglong_toLonglong, toULonglong_of_lt (by omega) (by omega)]
      rw [testIfSumOverflowsUll_eq_true small0] at overflow
      simp
      omega
    · have negated : (toULonglong (toLonglong (-val1)) : ℤ) = -val1 := by
        rw [toULonglong_toLonglong, toULonglong_of_lt (by omega) (by omega)]
      rw [testIfSumOverflowsUll_eq_true small0] at overflow
      simp
      omega
  case true.true =>
    have small0 := toULonglong_lt val0
    have small1 := toULonglong_lt val1
    split_ifs <;> simp <;> omega

/-- `-` of two integers is exact but for two cases: `0 - LONGLONG_MIN` of two `longlong`s is
taken as `LONGLONG_MIN`, and two unsigned operands with a negative difference raise the error
whatever the format of the `Item`. -/
theorem ItemFuncMinus.intOp_eq (unsignedFlag : Bool) (a b : LonglongHybrid) :
    ItemFuncMinus.intOp unsignedFlag a b =
      if a.unsigned = false ∧ b.unsigned = false ∧ a.value = 0 ∧ b.value = longlongMin then
        exactValInt unsignedFlag longlongMin
      else if a.unsigned = true ∧ b.unsigned = true ∧ a.toInt < b.toInt then .outOfRange
      else exactValInt unsignedFlag (a.toInt - b.toInt) := by
  have spec := ItemFuncMinus.resUnsigned_spec a b
  have difference : a.value - b.value ≡ a.toInt - b.toInt [ZMOD 2 ^ 64] :=
    (a.toInt_modEq.sub b.toInt_modEq).symm
  split_ifs with wraps negative
  · -- the difference `2 ^ 63` is computed in `longlong`, where it wraps
    obtain ⟨signed0, signed1, zero, least⟩ := wraps
    have pick : ItemFuncMinus.resUnsigned a b = some false := by
      unfold ItemFuncMinus.resUnsigned
      simp [signed0, signed1, zero, least, longlongMin]
    have wrapped : a.value - b.value ≡ longlongMin [ZMOD 2 ^ 64] := by
      rw [zero, least]
      decide
    unfold ItemFuncMinus.intOp
    rw [pick]
    exact (checkIntegerOverflow_eq _ _).trans
      (congrArg _ (LonglongHybrid.toInt_ofBits (by decide) wrapped))
  · obtain ⟨unsigned0, unsigned1, below⟩ := negative
    rw [LonglongHybrid.toInt_of_unsigned unsigned0, LonglongHybrid.toInt_of_unsigned unsigned1]
      at below
    have pick : ItemFuncMinus.resUnsigned a b = none := by
      unfold ItemFuncMinus.resUnsigned
      rw [if_pos unsigned0, if_pos unsigned1, if_pos (by omega)]
    unfold ItemFuncMinus.intOp
    rw [pick]
  · unfold ItemFuncMinus.intOp
    split
    next overflow =>
      rw [overflow] at spec
      rcases spec with outside | unsignedBelow
      · exact (exactValInt_of_outside outside).symm
      · exact absurd unsignedBelow negative
    next asUnsigned =>
      rw [asUnsigned] at spec
      have fits := spec.resolve_right wraps
      have wrapped := (ulonglongSub_modEq (Nat.le_of_lt (toULonglong_lt b.value))).trans
        (((toULonglong_modEq _).sub (toULonglong_modEq _)).trans difference)
      rw [checkIntegerOverflow_eq, LonglongHybrid.toInt_ofBits fits wrapped]
    next asSigned =>
      rw [asSigned] at spec
      rw [checkIntegerOverflow_eq, LonglongHybrid.toInt_ofBits (spec.resolve_right wraps) difference]

theorem ItemFuncMinus.intOp_not_exact :
    (∀ unsignedFlag : Bool,
      ItemFuncMinus.intOp unsignedFlag ⟨0, false, by decide⟩ ⟨longlongMin, false, by decide⟩ =
          exactValInt unsignedFlag longlongMin ∧
        exactValInt unsignedFlag longlongMin ≠ exactValInt unsignedFlag (0 - longlongMin)) ∧
    ∀ a b : LonglongHybrid, a.unsigned = true → b.unsigned = true → a.toInt < b.toInt →
      b.toInt - a.toInt ≤ 2 ^ 63 →
      ItemFuncMinus.intOp false a b = .outOfRange ∧
        exactValInt false (a.toInt - b.toInt) = .ok (a.toInt - b.toInt) := by
  refine ⟨fun unsignedFlag => ⟨?_, ?_⟩, fun a b unsigned0 unsigned1 below near => ⟨?_, ?_⟩⟩
  · rw [ItemFuncMinus.intOp_eq, if_pos ⟨rfl, rfl, rfl, rfl⟩]
  · cases unsignedFlag <;> decide
  · rw [ItemFuncMinus.intOp_eq, if_neg (by simp [unsigned0]), if_pos ⟨unsigned0, unsigned1, below⟩]
  · have fits : inRange false (a.toInt - b.toInt) = true := by
      rw [inRange_false_eq_true]
      omega
    rw [exactValInt, if_pos fits, toLonglong]
    congr 1
    omega

theorem ItemFuncMinus.intOp_not_exact_zero_one :
    ItemFuncMinus.intOp false ⟨0, true, by decide⟩ ⟨1, true, by decide⟩ = .outOfRange ∧
      exactValInt false (0 - 1) = .ok (0 - 1) :=
  ItemFuncMinus.intOp_not_exact.2 ⟨0, true, by decide⟩ ⟨1, true, by decide⟩ rfl rfl (by decide)
    (by decide)

/-! ### Multiplication, division and remainder -/

/-- `ullmul` is the product when it is a `ulonglong`, and NULL otherwise. -/
theorem ullmul_eq {a b : ℕ} (smallA : a < 2 ^ 64) (smallB : b < 2 ^ 64) :
    ullmul a b = if a * b < 2 ^ 64 then some (a * b) else none := by
  -- each factor is its high half and its low half
  obtain ⟨a1, a0, rfl, lowA, highA⟩ :
      ∃ a1 a0, a = a1 * 2 ^ 32 + a0 ∧ a0 < 2 ^ 32 ∧ a1 < 2 ^ 32 :=
    ⟨a / 2 ^ 32, a % 2 ^ 32, by omega, Nat.mod_lt _ (by decide), by omega⟩
  obtain ⟨b1, b0, rfl, lowB, highB⟩ :
      ∃ b1 b0, b = b1 * 2 ^ 32 + b0 ∧ b0 < 2 ^ 32 ∧ b1 < 2 ^ 32 :=
    ⟨b / 2 ^ 32, b % 2 ^ 32, by omega, Nat.mod_lt _ (by decide), by omega⟩
  have expand : (a1 * 2 ^ 32 + a0) * (b1 * 2 ^ 32 + b0) =
      a1 * b1 * 2 ^ 64 + (a1 * b0 + a0 * b1) * 2 ^ 32 + a0 * b0 := by ring
  unfold ullmul testIfSumOverflowsUll ulonglongMax
  simp only [show (a1 * 2 ^ 32 + a0) / 2 ^ 32 = a1 by omega,
    show (a1 * 2 ^ 32 + a0) % 2 ^ 32 = a0 by omega, show (b1 * 2 ^ 32 + b0) / 2 ^ 32 = b1 by omega,
    show (b1 * 2 ^ 32 + b0) % 2 ^ 32 = b0 by omega, expand, decide_eq_true_eq]
  by_cases both : a1 ≠ 0 ∧ b1 ≠ 0
  · -- both high halves are set: the product is at least `2 ^ 64`
    have : 1 ≤ a1 * b1 := Nat.one_le_iff_ne_zero.mpr (Nat.mul_ne_zero both.1 both.2)
    rw [if_pos both, if_neg (by omega)]
  · have zero : a1 * b1 = 0 := by
      rw [Nat.mul_eq_zero]
      omega
    rw [if_neg both, zero, Nat.zero_mul, Nat.zero_add]
    split_ifs <;> first | rfl | omega

/-- `*` of two integers is exact. -/
theorem ItemFuncMul.intOp_eq (unsignedFlag : Bool) (a b : LonglongHybrid) :
    ItemFuncMul.intOp unsignedFlag a b = exactValInt unsignedFlag (a.toInt * b.toInt) := by
  unfold ItemFuncMul.intOp
  split
  next product =>
    rw [ullmul_eq a.abs_lt b.abs_lt] at product
    split_ifs at product with small
    -- the product of the magnitudes does not fit in a `ulonglong`
    have big : 2 ^ 64 ≤ (a.toInt * b.toInt).natAbs := by
      rw [Int.natAbs_mul, ← a.abs_eq, ← b.abs_eq]
      omega
    exact (exactValInt_of_outside (outside_of_natAbs big)).symm
  next ures product =>
    rw [ullmul_eq a.abs_lt b.abs_lt] at product
    split_ifs at product with small
    cases product
    rw [checkIntegerOverflowU_eq, ULonglongHybrid.toInt_make, a.neg_eq, b.neg_eq, a.abs_eq,
      b.abs_eq, signed_mul_natAbs]

/-- `DIV` of two integers is the truncated quotient, and NULL for a zero divisor. -/
theorem ItemFuncIntDiv.valInt_eq (unsignedFlag : Bool) (a b : LonglongHybrid) :
    ItemFuncIntDiv.valInt unsignedFlag a b =
      if b.toInt = 0 then .null else exactValInt unsignedFlag (a.toInt.tdiv b.toInt) := by
  unfold ItemFuncIntDiv.valInt
  rw [b.eqInt_zero]
  by_cases zero : b.toInt = 0
  · rw [if_pos (decide_eq_true zero), if_pos zero]
  · rw [if_neg (by simpa using zero), if_neg zero, checkIntegerOverflowU_eq,
      ULonglongHybrid.toInt_make, a.neg_eq, b.neg_eq, a.abs_eq, b.abs_eq, signed_div_natAbs]

/-- `MOD` of two integers is the truncated remainder, and NULL for a zero divisor. -/
theorem ItemFuncMod.intOp_eq (unsignedFlag : Bool) (a b : LonglongHybrid) :
    ItemFuncMod.intOp unsignedFlag a b =
      if b.toInt = 0 then .null else exactValInt unsignedFlag (a.toInt.tmod b.toInt) := by
  unfold ItemFuncMod.intOp
  rw [b.eqInt_zero]
  by_cases zero : b.toInt = 0
  · rw [if_pos (decide_eq_true zero), if_pos zero]
  · rw [if_neg (by simpa using zero), if_neg zero, checkIntegerOverflowU_eq,
      ULonglongHybrid.toInt_make, a.neg_eq, a.abs_eq, b.abs_eq, signed_mod_natAbs]

/-! ### Negation -/

/-- Unary `-` of an integer is exact. -/
theorem ItemFuncNeg.intOp_eq (unsignedFlag : Bool) (a : LonglongHybrid) :
    ItemFuncNeg.intOp unsignedFlag a = exactValInt unsignedFlag (-a.toInt) := by
  have bounds : -2 ^ 63 ≤ a.value ∧ a.value < 2 ^ 63 := a.isLonglong
  have cast := toULonglong_cases a.isLonglong
  have least : longlongMin = -2 ^ 63 := rfl
  unfold ItemFuncNeg.intOp
  by_cases beyond : a.unsigned = true ∧ toULonglong a.value > toULonglong longlongMax + 1
  · -- an unsigned operand above `2 ^ 63`: its negation is below `LONGLONG_MIN`
    rw [if_pos beyond, LonglongHybrid.toInt_of_unsigned beyond.1]
    rw [toULonglong_longlongMax] at beyond
    exact (exactValInt_of_outside (by simp; omega)).symm
  rw [if_neg beyond]
  by_cases minimum : a.value = longlongMin
  · -- `LONGLONG_MIN` in one format: its negation is `LONGLONG_MIN` in the other
    rw [if_pos minimum]
    cases unsigned : a.unsigned
    · rw [LonglongHybrid.toInt_of_signed unsigned, minimum]
      cases unsignedFlag <;> decide
    · rw [LonglongHybrid.toInt_of_unsigned unsigned, minimum]
      cases unsignedFlag <;> decide
  · rw [if_neg minimum, checkIntegerOverflow_eq]
    congr 1
    apply LonglongHybrid.toInt_ofBits _ a.toInt_modEq.symm.neg
    cases unsigned : a.unsigned
    · rw [LonglongHybrid.toInt_of_signed unsigned]
      by_cases negative : a.value < 0
      · simp [negative]
        omega
      · simp [negative]
        omega
    · rw [LonglongHybrid.toInt_of_unsigned unsigned]
      simp only [unsigned, true_and, toULonglong_longlongMax] at beyond
      simp
      omega

/-! ### The operators together -/

/-- Every integer operator of SQL on operands that are not NULL, signed or unsigned: `+`, `*`,
`DIV`, `MOD` and unary `-` give the exact result of the numbers the operands stand for, in the
format of the `Item`, or `ER_DATA_OUT_OF_RANGE` when the `Item`'s range does not hold it, and
`DIV` and `MOD` by zero are NULL; `-` does so except for `0 - LONGLONG_MIN` of two signed
operands, which wraps, and two unsigned operands with a negative difference, which raise the
error whatever the `Item`'s range. -/
theorem integer_operators_exact (unsignedFlag : Bool) (a b : LonglongHybrid) :
    ItemFuncPlus.intOp unsignedFlag a b = exactValInt unsignedFlag (a.toInt + b.toInt) ∧
      ItemFuncMinus.intOp unsignedFlag a b =
        (if a.unsigned = false ∧ b.unsigned = false ∧ a.value = 0 ∧ b.value = longlongMin then
          exactValInt unsignedFlag longlongMin
        else if a.unsigned = true ∧ b.unsigned = true ∧ a.toInt < b.toInt then .outOfRange
        else exactValInt unsignedFlag (a.toInt - b.toInt)) ∧
      ItemFuncMul.intOp unsignedFlag a b = exactValInt unsignedFlag (a.toInt * b.toInt) ∧
      ItemFuncIntDiv.valInt unsignedFlag a b =
        (if b.toInt = 0 then .null else exactValInt unsignedFlag (a.toInt.tdiv b.toInt)) ∧
      ItemFuncMod.intOp unsignedFlag a b =
        (if b.toInt = 0 then .null else exactValInt unsignedFlag (a.toInt.tmod b.toInt)) ∧
      ItemFuncNeg.intOp unsignedFlag a = exactValInt unsignedFlag (-a.toInt) :=
  ⟨ItemFuncPlus.intOp_eq unsignedFlag a b, ItemFuncMinus.intOp_eq unsignedFlag a b,
    ItemFuncMul.intOp_eq unsignedFlag a b, ItemFuncIntDiv.valInt_eq unsignedFlag a b,
    ItemFuncMod.intOp_eq unsignedFlag a b, ItemFuncNeg.intOp_eq unsignedFlag a⟩

end MariaDB.Sql
