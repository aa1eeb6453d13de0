/-
Conversions between decimals and 64-bit integers, `strings/decimal.c`: `ull2dec`,
`ulonglong2decimal`, `longlong2decimal`, `decimal2ulonglong` and `decimal2longlong`.

`ull2dec` counts the words and the digits of the number and writes its words into the buffer,
or reports `E_DEC_OVERFLOW` when they do not fit in `len` words. `decimal2ulonglong` and
`decimal2longlong` accumulate the integer words from the most significant one, and test before
each step that the next step stays in range: `decimal2longlong` accumulates `-|d|`, which
reaches `LONGLONG_MIN`. They then read the fraction words for `E_DEC_TRUNCATED`. The tests are
exact: no step wraps, and the result is the integer part of the number, or the end of the
range with `E_DEC_OVERFLOW` when the integer part lies outside it. An integer converted to a
decimal and back is the same integer.
-/

import MariaDB.Library.Carry
import MariaDB.Decimal.Writer
import MariaDB.Decimal.Exact
import MariaDB.Sql.IntArith

namespace MariaDB.Decimal

open Sql (IsLonglong longlongMin longlongMax ulonglongMax toLonglong)

/-! ### `ull2dec` -/

/-- The first loop of `ull2dec`, `for (intg1=1; from >= DIG_BASE; intg1++, from/=DIG_BASE)`:
the words of the number and its most significant word. -/
def countWords (fromValue intg1 : ℕ) : ℕ × ℕ :=
  if fromValue ≥ digBase then countWords (fromValue / digBase) (intg1 + 1) else (intg1, fromValue)
termination_by fromValue
decreasing_by
  have base : 1 < digBase := by decide
  exact Nat.div_lt_self (by omega) base

/-- The second loop of `ull2dec`, `for (to->intg= (intg1-1)*DIG_PER_DEC1; from; to->intg++,
from/=10)`: the digits of the most significant word added to the count. -/
def countDigits (fromValue intg : ℕ) : ℕ :=
  if fromValue ≠ 0 then countDigits (fromValue / 10) (intg + 1) else intg
termination_by fromValue
decreasing_by omega

/-- The last loop of `ull2dec`: `y=x/DIG_BASE; *--buf=(dec1)(x-y*DIG_BASE); x=y;` for each of the
`intg1` words, from the end of the integer part backwards. The words, most significant first. -/
def storeWords : ℕ → ℕ → List ℕ
  | 0, _ => []
  | intg1 + 1, x => storeWords intg1 (x / digBase) ++ [x - x / digBase * digBase]

/-- `ull2dec`: the decimal of a `ulonglong` in the buffer of `to`, with `E_DEC_OVERFLOW` and the
low words when its words do not fit. -/
def ull2dec (fromValue : ℕ) (toDecimal : DecimalT) : DecimalT × DecimalError :=
  if fromValue = 0 then (decimalMakeZero toDecimal, .ok)
  else
    let (intg1, top) := countWords fromValue 1
    let (intg1, error) :=
      if intg1 > toDecimal.len then (toDecimal.len, DecimalError.overflow)
      else (intg1, DecimalError.ok)
    ({ toDecimal with
        frac := 0
        intg := countDigits top ((intg1 - 1) * digPerDec1)
        buf := storeWords intg1 fromValue ++ toDecimal.buf.drop intg1 }, error)

/-- `ulonglong2decimal`. -/
def ulonglong2decimal (fromValue : ℕ) (toDecimal : DecimalT) : DecimalT × DecimalError :=
  ull2dec fromValue { toDecimal with sign := false }

/-- `longlong2decimal`: the sign, and `ull2dec` of the magnitude, `LONGLONG_MIN` cast to
`ulonglong` for itself. -/
def longlong2decimal (fromValue : ℤ) (toDecimal : DecimalT) : DecimalT × DecimalError :=
  let toDecimal := { toDecimal with sign := decide (fromValue < 0) }
  if fromValue < 0 then
    if fromValue = longlongMin then ull2dec (Sql.toULonglong longlongMin) toDecimal
    else ull2dec (-fromValue).toNat toDecimal
  else ull2dec fromValue.toNat toDecimal

/-! ### `decimal2ulonglong` and `decimal2longlong` -/

/-- The integer loop of `decimal2ulonglong`: `x=x*DIG_BASE + *buf++` in `ulonglong` over the
integer words, after the test that the decimal is not above every `ulonglong`, which ends the
loop with `none`. -/
def ulonglongLoop (x : ℕ) : List ℕ → Option ℕ
  | [] => some x
  | word :: rest =>
    if x ≥ ulonglongMax / digBase ∧ (x > ulonglongMax / digBase ∨ word > ulonglongMax % digBase)
    then none
    else ulonglongLoop ((x * digBase + word) % 2 ^ 64) rest

/-- The integer loop of `decimal2longlong`: `x=x*DIG_BASE - *buf++` in `longlong` over the
integer words, accumulating `-|from|`, after the test that the decimal is not below every
`longlong`, which ends the loop with `none`. -/
def longlongLoop (x : ℤ) : List ℕ → Option ℤ
  | [] => some x
  | word :: rest =>
    if x ≤ longlongMin.tdiv digBase ∧
        (x < longlongMin.tdiv digBase ∨ (word : ℤ) > -longlongMin.tmod digBase)
    then none
    else longlongLoop (toLonglong (x * digBase - word)) rest

/-- The fraction loop of `decimal2ulonglong` and `decimal2longlong`: `E_DEC_TRUNCATED` at the
first non-zero fraction word. -/
def fractionError (words : List ℕ) : DecimalError :=
  if words.all (· == 0) then .ok else .truncated

/-- `decimal2ulonglong`: 0 and `E_DEC_OVERFLOW` for a negative number, `ULONGLONG_MAX` and
`E_DEC_OVERFLOW` above the range, the integer part otherwise. -/
def decimal2ulonglong (fromValue : DecimalT) : ℕ × DecimalError :=
  if fromValue.sign then (0, .overflow)
  else
    match ulonglongLoop 0 (fromValue.buf.take (intWords fromValue)) with
    | none => (ulonglongMax, .overflow)
    | some x => (x, fractionError (fracPart fromValue))

/-- `decimal2longlong`: the end of the range on the side of the sign and `E_DEC_OVERFLOW`
outside it, the integer part otherwise; `9223372036854775808` is caught after the loop. -/
def decimal2longlong (fromValue : DecimalT) : ℤ × DecimalError :=
  match longlongLoop 0 (fromValue.buf.take (intWords fromValue)) with
  | none => (if fromValue.sign then longlongMin else longlongMax, .overflow)
  | some x =>
    if fromValue.sign = false ∧ x = longlongMin then (longlongMax, .overflow)
    else (if fromValue.sign then x else -x, fractionError (fracPart fromValue))

/-! ### What `ull2dec` writes -/

/-- The words of a positive number: `extra` divisions leave its most significant word. -/
theorem countWords_eq (fromValue intg1 : ℕ) (positive : 0 < fromValue) :
    ∃ extra, countWords fromValue intg1 = (intg1 + extra, fromValue / digBase ^ extra) ∧
      digBase ^ extra ≤ fromValue ∧ fromValue < digBase ^ (extra + 1) := by
  induction fromValue, intg1 using countWords.induct with
  | case1 fromValue intg1 big inductionHypothesis =>
    have basePositive : 0 < digBase := by decide
    obtain ⟨extra, result, low, high⟩ :=
      inductionHypothesis (Nat.div_pos big basePositive)
    refine ⟨extra + 1, ?_, ?_, ?_⟩
    · rw [countWords, if_pos big, result, Nat.div_div_eq_div_mul, ← pow_succ']
      congr 1
      omega
    · calc digBase ^ (extra + 1) = digBase ^ extra * digBase := pow_succ _ _
        _ ≤ fromValue / digBase * digBase := Nat.mul_le_mul_right _ low
        _ ≤ fromValue := Nat.div_mul_le_self _ _
    · rw [pow_succ]
      exact (Nat.div_lt_iff_lt_mul basePositive).mp high
  | case2 fromValue intg1 small =>
    refine ⟨0, ?_, ?_, ?_⟩
    · rw [countWords, if_neg small, pow_zero, Nat.div_one, Nat.add_zero]
    · rw [pow_zero]
      exact positive
    · rw [Nat.zero_add, pow_one]
      exact Nat.lt_of_not_le small

theorem le_countDigits (fromValue intg : ℕ) : intg ≤ countDigits fromValue intg := by
  induction fromValue, intg using countDigits.induct with
  | case1 fromValue intg nonzero inductionHypothesis =>
    rw [countDigits, if_pos nonzero]
    omega
  | case2 fromValue intg zero =>
    rw [countDigits, if_neg zero]

theorem countDigits_le (fromValue intg digits : ℕ) (small : fromValue < 10 ^ digits) :
    countDigits fromValue intg ≤ intg + digits := by
  induction fromValue, intg using countDigits.induct generalizing digits with
  | case1 fromValue intg nonzero inductionHypothesis =>
    -- a non-zero number has a digit, and one less once divided by 10
    obtain ⟨fewer, rfl⟩ : ∃ fewer, digits = fewer + 1 := by
      cases digits with
      | zero => rw [pow_zero] at small; omega
      | succ fewer => exact ⟨fewer, rfl⟩
    rw [countDigits, if_pos nonzero]
    have shorter := inductionHypothesis fewer (by rw [pow_succ] at small; omega)
    omega
  | case2 fromValue intg zero =>
    rw [countDigits, if_neg zero]
    omega

theorem length_storeWords (intg1 x : ℕ) : (storeWords intg1 x).length = intg1 := by
  induction intg1 generalizing x with
  | zero => rfl
  | succ intg1 inductionHypothesis =>
    rw [storeWords, List.length_append, inductionHypothesis, List.length_singleton]

theorem storeWords_lt (intg1 x : ℕ) : ∀ word ∈ storeWords intg1 x, word < digBase := by
  induction intg1 generalizing x with
  | zero => simp [storeWords]
  | succ intg1 inductionHypothesis =>
    intro word member
    rw [storeWords, List.mem_append, List.mem_singleton] at member
    rcases member with front | rfl
    · exact inductionHypothesis _ word front
    · rw [Nat.mul_comm, ← Nat.mod_eq_sub_mul_div]
      exact Nat.mod_lt _ (by decide)

/-- The words `ull2dec` writes denote the number modulo the words' range. -/
theorem value_storeWords (intg1 x : ℕ) :
    Positional.value digBase (storeWords intg1 x) = x % digBase ^ intg1 := by
  induction intg1 generalizing x with
  | zero => rw [pow_zero, Nat.mod_one]; rfl
  | succ intg1 inductionHypothesis =>
    rw [storeWords, Positional.value_append, inductionHypothesis, List.length_singleton, pow_one,
      Positional.value_cons, List.length_nil, pow_zero, Nat.mul_one, Positional.value_nil,
      Nat.add_zero, Nat.mul_comm (x / digBase), ← Nat.mod_eq_sub_mul_div, pow_succ', Nat.mod_mul]
    ring

/-- `ull2dec` of a positive number whose words fit: the words, as many integer words as
`countWords` counts, and no fraction. -/
theorem ull2dec_of_le {fromValue : ℕ} {toDecimal : DecimalT} (positive : 0 < fromValue)
    (fits : (countWords fromValue 1).1 ≤ toDecimal.len) :
    (ull2dec fromValue toDecimal).2 = .ok ∧ (ull2dec fromValue toDecimal).1.sign = toDecimal.sign ∧
      intWords (ull2dec fromValue toDecimal).1 = (countWords fromValue 1).1 ∧
      fracWords (ull2dec fromValue toDecimal).1 = 0 ∧
      (ull2dec fromValue toDecimal).1.buf.take (intWords (ull2dec fromValue toDecimal).1) =
        storeWords (countWords fromValue 1).1 fromValue := by
  obtain ⟨extra, counted, low, high⟩ := countWords_eq fromValue 1 positive
  rw [counted] at fits
  dsimp only at fits
  -- the most significant word has one to nine digits
  have top : 0 < fromValue / digBase ^ extra ∧ fromValue / digBase ^ extra < 10 ^ digPerDec1 := by
    have weight : 0 < digBase ^ extra := Nat.pow_pos (by decide)
    refine ⟨Nat.div_pos low weight, (Nat.div_lt_iff_lt_mul weight).mpr ?_⟩
    show fromValue < digBase * digBase ^ extra
    rw [← pow_succ']
    exact high
  have digitsLow := countDigits_le (fromValue / digBase ^ extra) ((1 + extra - 1) * digPerDec1)
    digPerDec1 top.2
  have digitsHigh : (1 + extra - 1) * digPerDec1 + 1 ≤
      countDigits (fromValue / digBase ^ extra) ((1 + extra - 1) * digPerDec1) := by
    rw [countDigits, if_pos (Nat.pos_iff_ne_zero.mp top.1)]
    exact le_countDigits _ _
  unfold ull2dec
  rw [if_neg (Nat.pos_iff_ne_zero.mp positive), counted]
  dsimp only
  rw [if_neg (Nat.not_lt.mpr fits)]
  refine ⟨rfl, rfl, ?_, ?_, ?_⟩
  · unfold intWords roundUp digPerDec1 at *
    dsimp only
    omega
  · unfold fracWords roundUp digPerDec1
    dsimp only
  · have words : intWords { toDecimal with
        frac := 0
        intg := countDigits (fromValue / digBase ^ extra) ((1 + extra - 1) * digPerDec1)
        buf := storeWords (1 + extra) fromValue ++ toDecimal.buf.drop (1 + extra) } = 1 + extra := by
      unfold intWords roundUp digPerDec1 at *
      dsimp only
      omega
    rw [words, List.take_left' (length_storeWords _ _)]

theorem ull2dec_of_lt {fromValue : ℕ} {toDecimal : DecimalT} (positive : 0 < fromValue)
    (overflow : toDecimal.len < (countWords fromValue 1).1) :
    (ull2dec fromValue toDecimal).2 = .overflow := by
  unfold ull2dec
  rw [if_neg (Nat.pos_iff_ne_zero.mp positive)]
  dsimp only
  rw [if_pos overflow]

/-- A number below `2 ^ 64` takes at most three words. -/
theorem countWords_le_three {fromValue : ℕ} (positive : 0 < fromValue) (small : fromValue < 2 ^ 64) :
    (countWords fromValue 1).1 ≤ 3 := by
  obtain ⟨extra, counted, low, -⟩ := countWords_eq fromValue 1 positive
  rw [counted]
  by_contra many
  have large : digBase ^ 3 ≤ digBase ^ extra := Nat.pow_le_pow_right (by decide) (by omega)
  have : 2 ^ 64 < digBase ^ 3 := by decide
  omega

/-- What `ull2dec` leaves when it succeeds: words below `DIG_BASE`, the number as the integer
part, no fraction, and the sign it was given unless the number is zero. -/
theorem ull2dec_readBack {fromValue : ℕ} {toDecimal : DecimalT}
    (ok : (ull2dec fromValue toDecimal).2 = .ok) :
    (∀ word ∈ usedWords (ull2dec fromValue toDecimal).1, word < digBase) ∧
      intPart (ull2dec fromValue toDecimal).1 = fromValue ∧
      fracPart (ull2dec fromValue toDecimal).1 = [] ∧
      (ull2dec fromValue toDecimal).1.sign = (toDecimal.sign && fromValue != 0) := by
  by_cases zero : fromValue = 0
  · -- `decimal_make_zero`
    subst zero
    have zeroWords := usedWords_decimalMakeZero toDecimal
    refine ⟨?_, ?_, ?_, ?_⟩
    · rw [ull2dec, if_pos rfl, zeroWords]
      simp [digBase]
    · rw [ull2dec, if_pos rfl, intPart, intWords_decimalMakeZero]
      rfl
    · rw [ull2dec, if_pos rfl, fracPart, fracWords_decimalMakeZero, List.take_zero]
    · rw [ull2dec, if_pos rfl]
      simp [decimalMakeZero]
  · have positive := Nat.pos_of_ne_zero zero
    have fits : (countWords fromValue 1).1 ≤ toDecimal.len := by
      by_contra overflow
      rw [ull2dec_of_lt positive (Nat.lt_of_not_le overflow)] at ok
      exact DecimalError.noConfusion ok
    obtain ⟨-, sign, words, noFraction, written⟩ := ull2dec_of_le positive fits
    obtain ⟨extra, counted, -, high⟩ := countWords_eq fromValue 1 positive
    have stored : usedWords (ull2dec fromValue toDecimal).1 =
        storeWords (countWords fromValue 1).1 fromValue := by
      rw [usedWords, noFraction, Nat.add_zero, written]
    refine ⟨?_, ?_, ?_, ?_⟩
    · rw [stored]
      exact storeWords_lt _ _
    · rw [intPart, written, value_storeWords, counted, Nat.mod_eq_of_lt]
      rw [Nat.add_comm]
      exact high
    · rw [fracPart, noFraction, List.take_zero]
    · rw [sign]
      simp [zero]

/-- `longlong2decimal` is `ull2dec` of the magnitude, with the sign. -/
theorem longlong2decimal_eq (fromValue : ℤ) (toDecimal : DecimalT) :
    longlong2decimal fromValue toDecimal =
      ull2dec fromValue.natAbs { toDecimal with sign := decide (fromValue < 0) } := by
  unfold longlong2decimal
  dsimp only
  split_ifs with negative minimum
  · rw [minimum, Sql.toULonglong_longlongMin]
    rfl
  · rw [show (-fromValue).toNat = fromValue.natAbs by omega]
  · rw [show fromValue.toNat = fromValue.natAbs by omega]

/-! ### The loops test exactly for the range -/

/-- The test of `decimal2ulonglong` is that the next step passes `ULONGLONG_MAX`. -/
theorem ulonglongGuard_iff (x : ℕ) {word : ℕ} (small : word < digBase) :
    (x ≥ ulonglongMax / digBase ∧ (x > ulonglongMax / digBase ∨ word > ulonglongMax % digBase)) ↔
      ulonglongMax < x * digBase + word := by
  unfold ulonglongMax digBase at *
  omega

/-- The test of `decimal2longlong`, on `-|from|` so far, is that the next step passes
`2 ^ 63`, the magnitude of `LONGLONG_MIN`. -/
theorem longlongGuard_iff (x : ℕ) {word : ℕ} (small : word < digBase) :
    (-(x : ℤ) ≤ longlongMin.tdiv digBase ∧
        (-(x : ℤ) < longlongMin.tdiv digBase ∨ (word : ℤ) > -longlongMin.tmod digBase)) ↔
      2 ^ 63 < x * digBase + word := by
  have quotient : longlongMin.tdiv digBase = -9223372036 := by decide
  have remainder : longlongMin.tmod digBase = -854775808 := by decide
  rw [quotient, remainder]
  unfold digBase at *
  omega

/-- The integer loop of `decimal2ulonglong` accumulates the words while the result stays in
`ulonglong`: no step wraps. -/
theorem ulonglongLoop_eq {x : ℕ} (start : x ≤ ulonglongMax) (words : List ℕ)
    (small : ∀ word ∈ words, word < digBase) :
    ulonglongLoop x words = Positional.boundedValue digBase ulonglongMax x words := by
  induction words generalizing x with
  | nil => rfl
  | cons word rest inductionHypothesis =>
    have wordSmall := small word List.mem_cons_self
    rw [ulonglongLoop, Positional.boundedValue, if_congr (ulonglongGuard_iff x wordSmall) rfl rfl]
    by_cases passed : ulonglongMax < x * digBase + word
    · rw [if_pos passed, if_pos passed]
    · have fits : x * digBase + word < 2 ^ 64 := by
        unfold ulonglongMax at passed
        omega
      rw [if_neg passed, if_neg passed, Nat.mod_eq_of_lt fits]
      exact inductionHypothesis (Nat.le_of_not_lt passed)
        fun other member => small other (List.mem_cons_of_mem _ member)

/-- The integer loop of `decimal2longlong` accumulates the negated words while the result stays
in `longlong`: no step wraps. -/
theorem longlongLoop_eq {x : ℕ} (start : x ≤ 2 ^ 63) (words : List ℕ)
    (small : ∀ word ∈ words, word < digBase) :
    longlongLoop (-(x : ℤ)) words =
      (Positional.boundedValue digBase (2 ^ 63) x words).map fun magnitude : ℕ => -(magnitude : ℤ) := by
  induction words generalizing x with
  | nil => rfl
  | cons word rest inductionHypothesis =>
    have wordSmall := small word List.mem_cons_self
    rw [longlongLoop, Positional.boundedValue, if_congr (longlongGuard_iff x wordSmall) rfl rfl]
    by_cases passed : 2 ^ 63 < x * digBase + word
    · rw [if_pos passed, if_pos passed, Option.map_none]
    · -- the step stays in range, so `longlong` computes it exactly
      have exact : toLonglong (-(x : ℤ) * digBase - word) = -((x * digBase + word : ℕ) : ℤ) := by
        rw [show -(x : ℤ) * digBase - word = -((x * digBase + word : ℕ) : ℤ) by push_cast; ring]
        exact Sql.toLonglong_of_isLonglong (by unfold IsLonglong; omega)
      rw [if_neg passed, if_neg passed, exact]
      exact inductionHypothesis (Nat.le_of_not_lt passed)
        fun other member => small other (List.mem_cons_of_mem _ member)

/-! ### `decimal2longlong` and `decimal2ulonglong` on the integer part -/

/-- The integer part of a decimal with its sign. -/
def signedIntPart (d : DecimalT) : ℤ := if d.sign then -(intPart d : ℤ) else intPart d

section IntegerPart

variable {d : DecimalT}

theorem intWords_lt (small : ∀ word ∈ usedWords d, word < digBase) :
    ∀ word ∈ d.buf.take (intWords d), word < digBase := fun word member =>
  small word ((List.take_prefix_take_left (Nat.le_add_right _ (fracWords d))).subset member)

/-- `decimal2longlong` is the integer part, or the end of the range on the side of the sign
with `E_DEC_OVERFLOW` when the integer part lies outside it. -/
theorem decimal2longlong_eq (small : ∀ word ∈ usedWords d, word < digBase) :
    decimal2longlong d =
      if IsLonglong (signedIntPart d) then (signedIntPart d, fractionError (fracPart d))
      else (if d.sign then longlongMin else longlongMax, .overflow) := by
  have loop := longlongLoop_eq (x := 0) (by norm_num) _ (intWords_lt small)
  rw [Positional.boundedValue_eq (by decide) (by norm_num), Nat.zero_mul, Nat.zero_add,
    Nat.cast_zero, neg_zero, ← intPart] at loop
  unfold decimal2longlong signedIntPart
  rw [loop]
  by_cases above : 2 ^ 63 < intPart d
  · -- past `2 ^ 63` on either side of zero
    have outside : ¬ IsLonglong (if d.sign then -(intPart d : ℤ) else intPart d) := by
      unfold IsLonglong
      split <;> omega
    rw [if_pos above, Option.map_none, if_neg outside]
  · rw [if_neg above, Option.map_some]
    cases d.sign
    · -- `9223372036854775808` is the one magnitude the loop takes that a positive result cannot
      by_cases border : intPart d = 2 ^ 63
      · have outside : ¬ IsLonglong (intPart d : ℤ) := by
          unfold IsLonglong
          omega
        have minimum : -(intPart d : ℤ) = longlongMin := by
          unfold longlongMin
          omega
        simp only [Bool.false_eq_true, if_false, if_neg outside, minimum, and_self, if_true]
      · have inside : IsLonglong (intPart d : ℤ) := by
          unfold IsLonglong
          omega
        have notMinimum : -(intPart d : ℤ) ≠ longlongMin := by
          unfold longlongMin
          omega
        simp only [Bool.false_eq_true, if_false, if_pos inside, notMinimum, and_false, neg_neg]
    · have inside : IsLonglong (-(intPart d : ℤ)) := by
        unfold IsLonglong
        omega
      simp only [if_true, if_pos inside, Bool.true_eq_false, false_and, if_false]

/-- `decimal2ulonglong` is 0 with `E_DEC_OVERFLOW` for a negative decimal, the integer part
when it is below `2 ^ 64`, and `ULONGLONG_MAX` with `E_DEC_OVERFLOW` above. -/
theorem decimal2ulonglong_eq (small : ∀ word ∈ usedWords d, word < digBase) :
    decimal2ulonglong d =
      if d.sign then (0, .overflow)
      else if intPart d < 2 ^ 64 then (intPart d, fractionError (fracPart d))
      else (ulonglongMax, .overflow) := by
  have loop := ulonglongLoop_eq (x := 0) (by norm_num) _ (intWords_lt small)
  rw [Positional.boundedValue_eq (by decide) (by norm_num), Nat.zero_mul, Nat.zero_add,
    ← intPart] at loop
  unfold decimal2ulonglong
  rw [loop]
  cases d.sign
  · have positive : ¬ (false = true) := Bool.false_ne_true
    by_cases above : ulonglongMax < intPart d
    · have outside : ¬ intPart d < 2 ^ 64 := by
        unfold ulonglongMax at above
        omega
      rw [if_pos above, if_neg positive, if_neg positive, if_neg outside]
    · have inside : intPart d < 2 ^ 64 := by
        unfold ulonglongMax at above
        omega
      rw [if_neg above, if_neg positive, if_neg positive, if_pos inside]
  · rfl

end IntegerPart

/-! ### On the number -/

/-- Truncation toward zero, to an integer. -/
def truncateToInt (x : ℚ) : ℤ := if x < 0 then -⌊-x⌋ else ⌊x⌋

section Number

variable {d : DecimalT}

theorem fracPart_lt (small : ∀ word ∈ usedWords d, word < digBase) :
    ∀ word ∈ fracPart d, word < digBase := fun word member =>
  small word (tail_mem_usedWords (List.mem_append_right _ member))

theorem magnitude_eq_intPart (present : intWords d + fracWords d ≤ d.buf.length) :
    magnitude d = intPart d +
      (Positional.value digBase (fracPart d) : ℚ) / (digBase : ℚ) ^ fracWords d := by
  have weight : (digBase : ℚ) ^ fracWords d ≠ 0 := pow_ne_zero _ (by norm_num [digBase])
  rw [magnitude, scaled_eq_intPart present]
  push_cast
  field_simp

/-- The integer part is the floor of the magnitude: the fraction words stay below one. -/
theorem floor_magnitude (present : intWords d + fracWords d ≤ d.buf.length)
    (small : ∀ word ∈ usedWords d, word < digBase) : ⌊magnitude d⌋ = intPart d := by
  have fraction := Positional.value_lt digBase (fracPart d) (fracPart_lt small)
  rw [length_fracPart present] at fraction
  have weight : 0 < digBase ^ fracWords d := Nat.pow_pos (by decide)
  rw [magnitude, scaled_eq_intPart present, ← Nat.cast_pow, Rat.floor_natCast_div_natCast,
    ← Int.natCast_div, Nat.add_comm, Nat.add_mul_div_right _ _ weight, Nat.div_eq_of_lt fraction,
    Nat.zero_add]

/-- The integer part with its sign is the number truncated toward zero. -/
theorem truncateToInt_value (present : intWords d + fracWords d ≤ d.buf.length)
    (small : ∀ word ∈ usedWords d, word < digBase) : truncateToInt (value d) = signedIntPart d := by
  have floor := floor_magnitude present small
  have nonneg := magnitude_nonneg d
  rw [value_eq_magnitude, signedIntPart, truncateToInt]
  cases d.sign
  · simp only [Bool.false_eq_true, if_false]
    rw [if_neg (not_lt.mpr nonneg), floor]
  · simp only [if_true]
    by_cases zero : magnitude d = 0
    · -- zero is its own truncation
      rw [zero, Int.floor_zero] at floor
      rw [zero, neg_zero, if_neg (lt_irrefl 0), Int.floor_zero, ← floor, neg_zero]
    · rw [if_pos (neg_lt_zero.mpr (lt_of_le_of_ne nonneg (Ne.symm zero))), neg_neg, floor]

/-- The fraction test of the conversions: `E_DEC_TRUNCATED` exactly when the number is not
its truncation. -/
theorem fractionError_eq (present : intWords d + fracWords d ≤ d.buf.length) :
    fractionError (fracPart d) =
      if (signedIntPart d : ℚ) = value d then .ok else .truncated := by
  have weight : (digBase : ℚ) ^ fracWords d ≠ 0 := pow_ne_zero _ (by norm_num [digBase])
  have whole : (signedIntPart d : ℚ) = value d ↔ Positional.value digBase (fracPart d) = 0 := by
    rw [value_eq_magnitude, magnitude_eq_intPart present, signedIntPart]
    cases d.sign
    · simp only [Bool.false_eq_true, if_false, Int.cast_natCast]
      rw [eq_comm, add_eq_left, div_eq_zero_iff, Nat.cast_eq_zero, or_iff_left weight]
    · simp only [if_true, Int.cast_neg, Int.cast_natCast]
      rw [neg_inj, eq_comm, add_eq_left, div_eq_zero_iff, Nat.cast_eq_zero, or_iff_left weight]
  have zeros : (fracPart d).all (· == 0) = true ↔ Positional.value digBase (fracPart d) = 0 := by
    rw [Positional.value_eq_zero_iff (by decide), List.all_eq_true]
    simp only [beq_iff_eq]
  rw [fractionError]
  by_cases noFraction : Positional.value digBase (fracPart d) = 0
  · rw [if_pos (zeros.mpr noFraction), if_pos (whole.mpr noFraction)]
  · rw [if_neg (mt zeros.mp noFraction), if_neg (mt whole.mp noFraction)]

/-- A well-formed decimal is negative exactly when its sign is set. -/
theorem value_neg_iff (wellFormed : WellFormed d) : value d < 0 ↔ d.sign = true := by
  rw [value_eq_magnitude]
  cases sign : d.sign
  · simp only [Bool.false_eq_true, if_false, iff_false, not_lt]
    exact magnitude_nonneg d
  · simp only [if_true, iff_true, neg_lt_zero]
    exact magnitude_pos (wellFormed.negative_nonzero sign)

/-- `decimal2longlong` on the number: its truncation toward zero, `E_DEC_TRUNCATED` when that
drops a fraction, and the end of the range on the side of the number with `E_DEC_OVERFLOW` when
the truncation lies outside it. -/
theorem decimal2longlong_truncate (wellFormed : WellFormed d) :
    decimal2longlong d =
      if IsLonglong (truncateToInt (value d)) then
        (truncateToInt (value d), if (truncateToInt (value d) : ℚ) = value d then .ok else .truncated)
      else (if value d < 0 then longlongMin else longlongMax, .overflow) := by
  rw [decimal2longlong_eq wellFormed.word_lt,
    truncateToInt_value wellFormed.words_present wellFormed.word_lt,
    fractionError_eq wellFormed.words_present]
  simp only [value_neg_iff wellFormed]

/-- `decimal2ulonglong` on the number: 0 with `E_DEC_OVERFLOW` for a negative number, its
truncation below `2 ^ 64` with `E_DEC_TRUNCATED` when that drops a fraction, and
`ULONGLONG_MAX` with `E_DEC_OVERFLOW` above. -/
theorem decimal2ulonglong_truncate (wellFormed : WellFormed d) :
    decimal2ulonglong d =
      if value d < 0 then (0, .overflow)
      else if truncateToInt (value d) < 2 ^ 64 then
        ((truncateToInt (value d)).toNat, if (truncateToInt (value d) : ℚ) = value d then .ok else .truncated)
      else (ulonglongMax, .overflow) := by
  rw [decimal2ulonglong_eq wellFormed.word_lt,
    truncateToInt_value wellFormed.words_present wellFormed.word_lt,
    fractionError_eq wellFormed.words_present]
  simp only [value_neg_iff wellFormed]
  cases sign : d.sign
  · simp only [signedIntPart, sign, Bool.false_eq_true, if_false, Int.toNat_natCast]
    norm_cast
  · simp only [if_true]

end Number

/-! ### Round trips -/

/-- `longlong2decimal` fits every `longlong` in three words. -/
theorem longlong2decimal_ok {x : ℤ} {toDecimal : DecimalT} (range : IsLonglong x)
    (room : 3 ≤ toDecimal.len) : (longlong2decimal x toDecimal).2 = .ok := by
  rw [longlong2decimal_eq]
  by_cases zero : x.natAbs = 0
  · rw [zero]
    rfl
  · have positive := Nat.pos_of_ne_zero zero
    have small : x.natAbs < 2 ^ 64 := by
      unfold IsLonglong at range
      omega
    have signedRoom : 3 ≤ ({ toDecimal with sign := decide (x < 0) } : DecimalT).len := room
    exact (ull2dec_of_le positive (le_trans (countWords_le_three positive small) signedRoom)).1

/-- A `longlong` converted to a decimal, when that succeeds, converts back to itself. -/
theorem decimal2longlong_longlong2decimal {x : ℤ} {toDecimal : DecimalT} (range : IsLonglong x)
    (ok : (longlong2decimal x toDecimal).2 = .ok) :
    decimal2longlong (longlong2decimal x toDecimal).1 = (x, .ok) := by
  rw [longlong2decimal_eq] at ok ⊢
  obtain ⟨small, integer, noFraction, sign⟩ := ull2dec_readBack ok
  -- the sign and the magnitude give the integer back, zero included
  have back : (if (decide (x < 0) && x.natAbs != 0) = true then -(x.natAbs : ℤ)
      else (x.natAbs : ℤ)) = x := by
    by_cases negative : x < 0
    · simp only [negative, decide_true, Bool.true_and, bne_iff_ne, ne_eq, Int.natAbs_eq_zero,
        Int.ne_of_lt negative, not_false_eq_true, if_true]
      omega
    · simp only [negative, decide_false, Bool.false_and, Bool.false_eq_true, if_false]
      omega
  rw [decimal2longlong_eq small, signedIntPart, integer, sign, noFraction]
  dsimp only
  rw [back, if_pos range]
  rfl

/-- `ulonglong2decimal` fits every `ulonglong` in three words. -/
theorem ulonglong2decimal_ok {u : ℕ} {toDecimal : DecimalT} (small : u < 2 ^ 64)
    (room : 3 ≤ toDecimal.len) : (ulonglong2decimal u toDecimal).2 = .ok := by
  unfold ulonglong2decimal
  by_cases zero : u = 0
  · rw [zero]
    rfl
  · have positive := Nat.pos_of_ne_zero zero
    have unsignedRoom : 3 ≤ ({ toDecimal with sign := false } : DecimalT).len := room
    exact (ull2dec_of_le positive (le_trans (countWords_le_three positive small) unsignedRoom)).1

/-- A `ulonglong` converted to a decimal, when that succeeds, converts back to itself. -/
theorem decimal2ulonglong_ulonglong2decimal {u : ℕ} {toDecimal : DecimalT} (small : u < 2 ^ 64)
    (ok : (ulonglong2decimal u toDecimal).2 = .ok) :
    decimal2ulonglong (ulonglong2decimal u toDecimal).1 = (u, .ok) := by
  unfold ulonglong2decimal at ok ⊢
  obtain ⟨wordsSmall, integer, noFraction, sign⟩ := ull2dec_readBack ok
  rw [decimal2ulonglong_eq wordsSmall, integer, sign, noFraction, Bool.false_and, if_pos small]
  rfl

/-- The conversions between decimals and 64-bit integers: every `longlong` and every
`ulonglong` fits in the three words of a decimal and converts back to itself, and a
well-formed decimal converts to its truncation toward zero, with `E_DEC_TRUNCATED` exactly when
that drops a fraction, and to the end of the range with `E_DEC_OVERFLOW` outside it. -/
theorem decimal_integer_conversions :
    (∀ (x : ℤ) (toDecimal : DecimalT), IsLonglong x → 3 ≤ toDecimal.len →
      (longlong2decimal x toDecimal).2 = .ok) ∧
    (∀ (x : ℤ) (toDecimal : DecimalT), IsLonglong x → (longlong2decimal x toDecimal).2 = .ok →
      decimal2longlong (longlong2decimal x toDecimal).1 = (x, .ok)) ∧
    (∀ (u : ℕ) (toDecimal : DecimalT), u < 2 ^ 64 → 3 ≤ toDecimal.len →
      (ulonglong2decimal u toDecimal).2 = .ok) ∧
    (∀ (u : ℕ) (toDecimal : DecimalT), u < 2 ^ 64 → (ulonglong2decimal u toDecimal).2 = .ok →
      decimal2ulonglong (ulonglong2decimal u toDecimal).1 = (u, .ok)) ∧
    (∀ d : DecimalT, WellFormed d →
      decimal2longlong d =
        if IsLonglong (truncateToInt (value d)) then
          (truncateToInt (value d),
            if (truncateToInt (value d) : ℚ) = value d then .ok else .truncated)
        else (if value d < 0 then longlongMin else longlongMax, .overflow)) ∧
    (∀ d : DecimalT, WellFormed d →
      decimal2ulonglong d =
        if value d < 0 then (0, .overflow)
        else if truncateToInt (value d) < 2 ^ 64 then
          ((truncateToInt (value d)).toNat,
            if (truncateToInt (value d) : ℚ) = value d then .ok else .truncated)
        else (ulonglongMax, .overflow)) :=
  ⟨fun _ _ range room => longlong2decimal_ok range room,
    fun _ _ range ok => decimal2longlong_longlong2decimal range ok,
    fun _ _ small room => ulonglong2decimal_ok small room,
    fun _ _ small ok => decimal2ulonglong_ulonglong2decimal small ok,
    fun _ wellFormed => decimal2longlong_truncate wellFormed,
    fun _ wellFormed => decimal2ulonglong_truncate wellFormed⟩

/-- `LONGLONG_MIN` and `ULONGLONG_MAX` in a nine-word buffer, and `-2.5`. -/
theorem decimal_integer_conversions_limits :
    ((longlong2decimal longlongMin ⟨0, 0, 9, false, List.replicate 9 0⟩).2 = .ok ∧
      decimal2longlong (longlong2decimal longlongMin ⟨0, 0, 9, false, List.replicate 9 0⟩).1 =
        (longlongMin, .ok)) ∧
    ((ulonglong2decimal (2 ^ 64 - 1) ⟨0, 0, 9, false, List.replicate 9 0⟩).2 = .ok ∧
      decimal2ulonglong (ulonglong2decimal (2 ^ 64 - 1) ⟨0, 0, 9, false, List.replicate 9 0⟩).1 =
        (2 ^ 64 - 1, .ok)) ∧
    WellFormed ⟨1, 1, 2, true, [2, 500000000]⟩ ∧
    decimal2longlong ⟨1, 1, 2, true, [2, 500000000]⟩ =
      if IsLonglong (truncateToInt (value ⟨1, 1, 2, true, [2, 500000000]⟩)) then
        (truncateToInt (value ⟨1, 1, 2, true, [2, 500000000]⟩),
          if (truncateToInt (value ⟨1, 1, 2, true, [2, 500000000]⟩) : ℚ) =
            value ⟨1, 1, 2, true, [2, 500000000]⟩ then .ok else .truncated)
      else (if value ⟨1, 1, 2, true, [2, 500000000]⟩ < 0 then longlongMin else longlongMax,
        .overflow) :=
  have minimum := decimal_integer_conversions.1 longlongMin ⟨0, 0, 9, false, List.replicate 9 0⟩
    (by decide) (by decide)
  have maximum := decimal_integer_conversions.2.2.1 (2 ^ 64 - 1)
    ⟨0, 0, 9, false, List.replicate 9 0⟩ (by decide) (by decide)
  have wellFormed : WellFormed ⟨1, 1, 2, true, [2, 500000000]⟩ := by decide
  ⟨⟨minimum, decimal_integer_conversions.2.1 longlongMin _ (by decide) minimum⟩,
    ⟨maximum, decimal_integer_conversions.2.2.2.1 (2 ^ 64 - 1) _ (by decide) maximum⟩,
    wellFormed, decimal_integer_conversions.2.2.2.2.1 _ wellFormed⟩

end MariaDB.Decimal
