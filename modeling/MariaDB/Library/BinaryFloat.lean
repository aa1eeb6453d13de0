/-
The binary interchange formats of IEEE 754. A pattern of `1 + exponentBits + fractionBits`
bits holds a sign bit, a biased exponent field and a trailing significand field, most
significant first; a pattern whose exponent field is not all ones is finite and stands for a
rational number. Its magnitude is a whole multiple of the least subnormal, and that multiple
grows strictly with the bits below the sign bit; so finite values are ordered as their
patterns read as a sign and a magnitude, and both zeros are one number. `sortKey` turns that
order into the order of natural numbers: the zeros in the middle of the range, the negative
patterns complemented below them, and the positive ones above them, moved up by one unit of
the exponent field.
-/

import Mathlib
import MariaDB.Library.SignMagnitude

namespace BinaryFloat

open SignMagnitude (signed signed_false signed_true)

/-! ### Magnitudes in units of the least subnormal -/

section Units

variable (fractionBits : ℕ)

/-- The magnitude that the bits below the sign bit stand for, in units of the least
subnormal: the trailing significand alone when the biased exponent is zero, and with the
hidden bit, shifted left by one less than the exponent, above it. -/
def units (magnitude : ℕ) : ℕ :=
  if magnitude / 2 ^ fractionBits = 0 then magnitude % 2 ^ fractionBits
  else (2 ^ fractionBits + magnitude % 2 ^ fractionBits) * 2 ^ (magnitude / 2 ^ fractionBits - 1)

variable {fractionBits}

theorem units_fields (biasedExponent : ℕ) {trailing : ℕ} (small : trailing < 2 ^ fractionBits) :
    units fractionBits (biasedExponent * 2 ^ fractionBits + trailing) =
      if biasedExponent = 0 then trailing
      else (2 ^ fractionBits + trailing) * 2 ^ (biasedExponent - 1) := by
  have positive : 0 < 2 ^ fractionBits := Nat.two_pow_pos fractionBits
  have exponent : (biasedExponent * 2 ^ fractionBits + trailing) / 2 ^ fractionBits =
      biasedExponent := by
    rw [Nat.add_comm, Nat.add_mul_div_right _ _ positive, Nat.div_eq_of_lt small, Nat.zero_add]
  have fraction : (biasedExponent * 2 ^ fractionBits + trailing) % 2 ^ fractionBits =
      trailing := by
    rw [Nat.add_comm, Nat.add_mul_mod_self_right, Nat.mod_eq_of_lt small]
  rw [units, exponent, fraction]

/-- Every magnitude of a biased exponent lies below the least one of the next exponent. -/
theorem units_lt (biasedExponent : ℕ) {trailing : ℕ} (small : trailing < 2 ^ fractionBits) :
    units fractionBits (biasedExponent * 2 ^ fractionBits + trailing) <
      2 ^ fractionBits * 2 ^ biasedExponent := by
  rw [units_fields biasedExponent small]
  split_ifs with subnormal
  · rw [subnormal, pow_zero, Nat.mul_one]
    exact small
  · have shift : 2 ^ biasedExponent = 2 * 2 ^ (biasedExponent - 1) := by
      rw [← Nat.pow_succ', Nat.succ_eq_add_one, Nat.sub_add_cancel (Nat.pos_of_ne_zero subnormal)]
    rw [shift, ← Nat.mul_assoc]
    exact Nat.mul_lt_mul_of_pos_right (by omega) (Nat.two_pow_pos _)

theorem le_units {biasedExponent trailing : ℕ} (small : trailing < 2 ^ fractionBits)
    (normal : biasedExponent ≠ 0) :
    2 ^ fractionBits * 2 ^ (biasedExponent - 1) ≤
      units fractionBits (biasedExponent * 2 ^ fractionBits + trailing) := by
  rw [units_fields biasedExponent small, if_neg normal]
  exact Nat.mul_le_mul_right _ (Nat.le_add_right _ _)

/-- The magnitude grows strictly with the bits below the sign bit. -/
theorem strictMono_units : StrictMono (units fractionBits) := by
  intro m m' less
  have positive : 0 < 2 ^ fractionBits := Nat.two_pow_pos fractionBits
  have split := Nat.div_add_mod' m (2 ^ fractionBits)
  have split' := Nat.div_add_mod' m' (2 ^ fractionBits)
  have small := Nat.mod_lt m positive
  have small' := Nat.mod_lt m' positive
  have exponentLe : m / 2 ^ fractionBits ≤ m' / 2 ^ fractionBits := Nat.div_le_div_right less.le
  rw [← split, ← split']
  rcases Nat.eq_or_lt_of_le exponentLe with same | larger
  · -- one exponent: the trailing significands decide
    have trailingLess : m % 2 ^ fractionBits < m' % 2 ^ fractionBits := by
      have sameHigh : m / 2 ^ fractionBits * 2 ^ fractionBits =
          m' / 2 ^ fractionBits * 2 ^ fractionBits := by rw [same]
      omega
    rw [units_fields _ small, units_fields _ small', same]
    split_ifs
    · exact trailingLess
    · exact Nat.mul_lt_mul_of_pos_right (by omega) (Nat.two_pow_pos _)
  · -- a larger exponent: the next binade starts above every magnitude of this one
    calc units fractionBits (m / 2 ^ fractionBits * 2 ^ fractionBits + m % 2 ^ fractionBits)
        < 2 ^ fractionBits * 2 ^ (m / 2 ^ fractionBits) := units_lt _ small
      _ ≤ 2 ^ fractionBits * 2 ^ (m' / 2 ^ fractionBits - 1) :=
        Nat.mul_le_mul_left _ (Nat.pow_le_pow_right (by norm_num) (by omega))
      _ ≤ units fractionBits (m' / 2 ^ fractionBits * 2 ^ fractionBits + m' % 2 ^ fractionBits) :=
        le_units small' (Nat.ne_of_gt (lt_of_le_of_lt (Nat.zero_le _) larger))

@[simp] theorem units_zero : units fractionBits 0 = 0 := by
  simp [units]

theorem units_eq_zero_iff {magnitude : ℕ} : units fractionBits magnitude = 0 ↔ magnitude = 0 := by
  constructor
  · intro zero
    by_contra nonzero
    have above : units fractionBits 0 < units fractionBits magnitude :=
      strictMono_units (Nat.pos_of_ne_zero nonzero)
    rw [units_zero, zero] at above
    exact Nat.lt_irrefl 0 above
  · rintro rfl
    exact units_zero

end Units

/-! ### Patterns and their values -/

section Patterns

variable (exponentBits fractionBits : ℕ)

/-- The bits below the sign bit: the biased exponent field and the trailing significand. -/
def magnitude (bits : ℕ) : ℕ := bits % 2 ^ (exponentBits + fractionBits)

/-- The sign bit of a pattern of `1 + exponentBits + fractionBits` bits. -/
def negative (bits : ℕ) : Bool := decide (2 ^ (exponentBits + fractionBits) ≤ bits)

/-- The exponent field is not all ones: the pattern is neither an infinity nor a NaN. -/
def IsFinite (bits : ℕ) : Prop :=
  magnitude exponentBits fractionBits bits < (2 ^ exponentBits - 1) * 2 ^ fractionBits

instance (bits : ℕ) : Decidable (IsFinite exponentBits fractionBits bits) :=
  inferInstanceAs (Decidable (_ < _))

/-- The least subnormal is `2 ^ -leastExponent`: the least normal exponent `2 - 2 ^ (e - 1)`
less the width of the trailing significand. -/
def leastExponent : ℕ := 2 ^ (exponentBits - 1) + fractionBits - 2

/-- The number a finite pattern stands for; both zeros are `0`. -/
def finiteValue (bits : ℕ) : ℚ :=
  (signed (negative exponentBits fractionBits bits)
      (units fractionBits (magnitude exponentBits fractionBits bits)) : ℚ) /
    2 ^ leastExponent exponentBits fractionBits

/-- A key under which finite values sort as numbers: both zeros in the middle of the range,
a negative pattern complemented below them, and a positive one above them with its exponent
field raised by one. -/
def sortKey (bits : ℕ) : ℕ :=
  if magnitude exponentBits fractionBits bits = 0 then 2 ^ (exponentBits + fractionBits)
  else if negative exponentBits fractionBits bits then
    2 ^ (exponentBits + fractionBits + 1) - 1 - bits
  else 2 ^ (exponentBits + fractionBits) + bits + 2 ^ fractionBits

/-- `sortKey` as a function of the pattern read as a sign and a magnitude. -/
def signedKey (z : ℤ) : ℤ :=
  2 ^ (exponentBits + fractionBits) + z +
    if z < 0 then -1 else if z = 0 then 0 else 2 ^ fractionBits

variable {exponentBits fractionBits}

/-- Finite values are ordered as the patterns read as a sign and a magnitude. -/
theorem compare_finiteValue (bits bits' : ℕ) :
    compare (finiteValue exponentBits fractionBits bits)
        (finiteValue exponentBits fractionBits bits') =
      compare (signed (negative exponentBits fractionBits bits)
          (magnitude exponentBits fractionBits bits))
        (signed (negative exponentBits fractionBits bits')
          (magnitude exponentBits fractionBits bits')) := by
  have scale : (0 : ℚ) < (2 ^ leastExponent exponentBits fractionBits)⁻¹ := by positivity
  rw [finiteValue, finiteValue, div_eq_mul_inv, div_eq_mul_inv, ← cmp_eq_compare,
    cmp_mul_pos_right scale, (Int.cast_strictMono (R := ℚ)).cmp_map_eq, cmp_eq_compare,
    SignMagnitude.compare_signed_map strictMono_units units_zero]

theorem finiteValue_eq_zero_iff (bits : ℕ) :
    finiteValue exponentBits fractionBits bits = 0 ↔ magnitude exponentBits fractionBits bits = 0 := by
  have scale : (2 : ℚ) ^ leastExponent exponentBits fractionBits ≠ 0 := by positivity
  rw [finiteValue, div_eq_zero_iff, or_iff_left scale, Int.cast_eq_zero]
  cases negative exponentBits fractionBits bits <;> simp [units_eq_zero_iff]

theorem strictMono_signedKey : StrictMono (signedKey exponentBits fractionBits) := by
  intro z z' less
  have positive : (0 : ℤ) < 2 ^ fractionBits := by positivity
  unfold signedKey
  split_ifs <;> omega

/-- A pattern of the format's width is the sign bit above the magnitude. -/
theorem bits_eq {bits : ℕ} (small : bits < 2 ^ (exponentBits + fractionBits + 1)) :
    bits = (if negative exponentBits fractionBits bits then 2 ^ (exponentBits + fractionBits)
      else 0) + magnitude exponentBits fractionBits bits := by
  have double : 2 ^ (exponentBits + fractionBits + 1) = 2 * 2 ^ (exponentBits + fractionBits) :=
    Nat.pow_succ'
  unfold negative magnitude
  by_cases high : 2 ^ (exponentBits + fractionBits) ≤ bits
  · rw [decide_eq_true high, if_pos rfl, Nat.mod_eq_sub_mod high,
      Nat.mod_eq_of_lt (by omega)]
    omega
  · rw [decide_eq_false high, if_neg Bool.false_ne_true, Nat.mod_eq_of_lt (by omega)]
    omega

theorem sortKey_eq {bits : ℕ} (small : bits < 2 ^ (exponentBits + fractionBits + 1)) :
    (sortKey exponentBits fractionBits bits : ℤ) =
      signedKey exponentBits fractionBits
        (signed (negative exponentBits fractionBits bits)
          (magnitude exponentBits fractionBits bits)) := by
  have parts := bits_eq small
  have double : (2 : ℤ) ^ (exponentBits + fractionBits + 1) =
      2 * 2 ^ (exponentBits + fractionBits) := pow_succ' _ _
  have below : 1 + bits ≤ 2 ^ (exponentBits + fractionBits + 1) := by omega
  unfold sortKey signedKey
  by_cases zero : magnitude exponentBits fractionBits bits = 0
  · -- both zeros: the middle of the range
    rw [if_pos zero, zero]
    cases negative exponentBits fractionBits bits <;> simp
  · have positive : (0 : ℤ) < magnitude exponentBits fractionBits bits := by omega
    rw [if_neg zero]
    cases sign : negative exponentBits fractionBits bits
    · -- a positive pattern is its magnitude, moved above the zeros
      rw [sign, if_neg Bool.false_ne_true] at parts
      have notNegative : ¬(magnitude exponentBits fractionBits bits : ℤ) < 0 := by omega
      have notZero : ¬(magnitude exponentBits fractionBits bits : ℤ) = 0 := by omega
      rw [if_neg Bool.false_ne_true, signed_false, if_neg notNegative, if_neg notZero]
      push_cast
      omega
    · -- a negative pattern is complemented below the zeros
      rw [sign, if_pos rfl] at parts
      have partsInt : (bits : ℤ) =
          2 ^ (exponentBits + fractionBits) + magnitude exponentBits fractionBits bits := by
        exact_mod_cast parts
      have isNegative : -(magnitude exponentBits fractionBits bits : ℤ) < 0 := by omega
      rw [if_pos rfl, signed_true, if_pos isNegative, Nat.sub_sub, Nat.cast_sub below]
      push_cast
      omega

/-- The keys of two patterns of the format's width compare as their values. -/
theorem compare_sortKey {bits bits' : ℕ} (small : bits < 2 ^ (exponentBits + fractionBits + 1))
    (small' : bits' < 2 ^ (exponentBits + fractionBits + 1)) :
    compare (sortKey exponentBits fractionBits bits) (sortKey exponentBits fractionBits bits') =
      compare (finiteValue exponentBits fractionBits bits)
        (finiteValue exponentBits fractionBits bits') := by
  rw [compare_finiteValue, ← cmp_eq_compare, ← cmp_eq_compare,
    ← (Nat.strictMono_cast (α := ℤ)).cmp_map_eq, sortKey_eq small, sortKey_eq small',
    strictMono_signedKey.cmp_map_eq]

end Patterns

end BinaryFloat
