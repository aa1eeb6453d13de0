/-
The exact-numeric type of `strings/decimal.c`.

A `decimal_t` stores `intg` decimal digits before the point and `frac` after it in words of
nine digits (`dec1`, base `10 ^ 9`), the integer part right-aligned in its first
`ROUND_UP(intg)` words and the fraction left-aligned in the next `ROUND_UP(frac)` words. The
number is the integer these words denote, scaled down by one word per fraction word and
negated when `sign` is set. This file models the type, the tables the library shares, the
helper `remove_leading_zeroes`, and states what a well-formed value is.
-/

import MariaDB.Library.Radix

namespace MariaDB.Decimal

/-! ### Words and tables -/

/-- `DIG_PER_DEC1`: decimal digits in one word. -/
def digPerDec1 : ℕ := 9

/-- `DIG_BASE`: the radix of the words. -/
def digBase : ℕ := 1000000000

/-- `DIG_MAX`: the largest word. -/
def digMax : ℕ := digBase - 1

theorem digBase_pow (count : ℕ) : digBase ^ count = 10 ^ (digPerDec1 * count) := by
  rw [Nat.pow_mul]
  rfl

/-- `powers10[i]`. -/
def powers10 (i : ℕ) : ℕ := 10 ^ i

/-- `dig2bytes[i]`: the bytes `decimal2bin` needs for a group of `i` digits. -/
def dig2bytes : ℕ → ℕ
  | 0 => 0 | 1 => 1 | 2 => 1 | 3 => 2 | 4 => 2 | 5 => 3 | 6 => 3 | 7 => 4 | 8 => 4 | 9 => 4
  | _ => 0

/-- `ROUND_UP(x)`: the words that hold `x` digits. -/
def roundUp (x : ℕ) : ℕ := (x + (digPerDec1 - 1)) / digPerDec1

/-- The return codes `E_DEC_OK`, `E_DEC_TRUNCATED`, `E_DEC_OVERFLOW`, `E_DEC_DIV_ZERO`,
`E_DEC_BAD_NUM` and `E_DEC_OOM`. -/
inductive DecimalError
  | ok
  | truncated
  | overflow
  | divZero
  | badNum
  | oom
  deriving Repr, DecidableEq

/-- `decimal_t`: the digit counts `intg` and `frac`, the allocated length `len` in words,
the sign (`true` for negative), and the words, most significant first. -/
structure DecimalT where
  intg : ℕ
  frac : ℕ
  len : ℕ
  sign : Bool
  buf : List ℕ
  deriving Repr, DecidableEq

/-- `decimal_make_zero`: one zero integer digit, no fraction, positive. -/
def decimalMakeZero (d : DecimalT) : DecimalT :=
  { d with buf := 0 :: d.buf.drop 1, intg := 1, frac := 0, sign := false }

/-! ### `remove_leading_zeroes` -/

/-- The first loop of `remove_leading_zeroes`: while digits remain and the current word is
zero, step over the word and its digits, `i` of them for the first word and nine after it.
Returns the remaining digit count and the words from the new position. -/
def skipZeroWords : List ℕ → ℕ → ℕ → ℕ × List ℕ
  | word :: rest, intg, i =>
    if 0 < intg ∧ word = 0 then skipZeroWords rest (intg - i) digPerDec1
    else (intg, word :: rest)
  | [], intg, _ => (intg, [])

/-- The second loop of `remove_leading_zeroes`: `for (i= (intg - 1) % DIG_PER_DEC1;
*buf0 < powers10[i--]; intg--) ;`. The first loop leaves a non-zero word here, which is not
below `powers10[0]`, so the count stops at `i = 0` at the latest. -/
def countLeadingDigits (word : ℕ) : ℕ → ℕ → ℕ
  | i + 1, intg => if word < powers10 (i + 1) then countLeadingDigits word i (intg - 1) else intg
  | 0, intg => intg

/-- `remove_leading_zeroes`: the number of significant integer digits and the words from
the first non-zero integer word on. -/
def removeLeadingZeroes (d : DecimalT) : ℕ × List ℕ :=
  let (intg, rest) := skipZeroWords d.buf d.intg ((d.intg - 1) % digPerDec1 + 1)
  if 0 < intg then (countLeadingDigits (rest.headD 0) ((intg - 1) % digPerDec1) intg, rest)
  else (0, rest)

/-! ### The number a decimal denotes -/

/-- The words that hold the integer part. -/
def intWords (d : DecimalT) : ℕ := roundUp d.intg

/-- The words that hold the fraction. -/
def fracWords (d : DecimalT) : ℕ := roundUp d.frac

/-- The words the number occupies. -/
def usedWords (d : DecimalT) : List ℕ := d.buf.take (intWords d + fracWords d)

/-- The integer the used words denote: the magnitude scaled up by one word per fraction
word. -/
def scaled (d : DecimalT) : ℕ := Positional.value digBase (usedWords d)

/-- The integer part of the magnitude. -/
def intPart (d : DecimalT) : ℕ :=
  Positional.value digBase (d.buf.take (intWords d))

/-- The number a decimal denotes. -/
def value (d : DecimalT) : ℚ :=
  (if d.sign then -1 else 1) * (scaled d : ℚ) / (digBase : ℚ) ^ fracWords d

/-- The decimal is zero. -/
def IsZero (d : DecimalT) : Prop := scaled d = 0

instance (d : DecimalT) : Decidable (IsZero d) := inferInstanceAs (Decidable (scaled d = 0))

/-- A well-formed decimal: its words are present and below `DIG_BASE`, the leading word has
no more digits than `intg % 9` allows, the digits of the last fraction word past `frac` are
zero, and only a non-zero number is negative. -/
structure WellFormed (d : DecimalT) : Prop where
  words_present : intWords d + fracWords d ≤ d.buf.length
  word_lt : ∀ word ∈ usedWords d, word < digBase
  leading : d.intg % digPerDec1 ≠ 0 → d.buf.headD 0 < powers10 (d.intg % digPerDec1)
  trailing : d.frac % digPerDec1 ≠ 0 →
    (d.buf.getD (intWords d + fracWords d - 1) 0) % powers10 (digPerDec1 - d.frac % digPerDec1)
      = 0
  negative_nonzero : d.sign = true → ¬ IsZero d

instance (d : DecimalT) : Decidable (WellFormed d) :=
  decidable_of_iff (intWords d + fracWords d ≤ d.buf.length ∧
      (∀ word ∈ usedWords d, word < digBase) ∧
      (d.intg % digPerDec1 ≠ 0 → d.buf.headD 0 < powers10 (d.intg % digPerDec1)) ∧
      (d.frac % digPerDec1 ≠ 0 →
        (d.buf.getD (intWords d + fracWords d - 1) 0) % powers10 (digPerDec1 - d.frac % digPerDec1)
          = 0) ∧
      (d.sign = true → ¬ IsZero d))
    ⟨fun ⟨present, small, lead, trail, sign⟩ => ⟨present, small, lead, trail, sign⟩,
      fun wellFormed => ⟨wellFormed.words_present, wellFormed.word_lt, wellFormed.leading,
        wellFormed.trailing, wellFormed.negative_nonzero⟩⟩

end MariaDB.Decimal
