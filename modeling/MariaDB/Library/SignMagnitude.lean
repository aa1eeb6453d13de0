/-
Integers as a sign and a magnitude.

C code that must not overflow on the most negative value often computes a product, a quotient
or a remainder on the magnitudes of its operands, as unsigned numbers, and sets the sign
afterwards. `signed neg m` is the integer with magnitude `m`, negative when `neg` holds; the
lemmas say that the magnitudes and the signs give back the product and the truncating quotient
and remainder of `Int.tdiv` and `Int.tmod`.
-/

import Mathlib

namespace SignMagnitude

/-- The integer of magnitude `m`, negative when `neg` holds. -/
def signed (neg : Bool) (m : ℕ) : ℤ := if neg then -(m : ℤ) else m

@[simp] theorem signed_false (m : ℕ) : signed false m = m := rfl

@[simp] theorem signed_true (m : ℕ) : signed true m = -(m : ℤ) := rfl

@[simp] theorem signed_zero (neg : Bool) : signed neg 0 = 0 := by
  cases neg <;> simp

section Operations

variable (A B : ℤ)

/-- The product has the magnitude of the product of the magnitudes, and is negative when the
signs differ. -/
theorem signed_mul_natAbs :
    signed (decide (A < 0) != decide (B < 0)) (A.natAbs * B.natAbs) = A * B := by
  rcases Int.lt_or_le A 0 with negA | posA <;> rcases Int.lt_or_le B 0 with negB | posB
  · have eA : (A.natAbs : ℤ) = -A := by omega
    have eB : (B.natAbs : ℤ) = -B := by omega
    rw [show (decide (A < 0) != decide (B < 0)) = false by simp [negA, negB], signed_false,
      Int.natCast_mul, eA, eB]
    ring
  · have eA : (A.natAbs : ℤ) = -A := by omega
    have eB : (B.natAbs : ℤ) = B := by omega
    rw [show (decide (A < 0) != decide (B < 0)) = true by simp [negA, not_lt.mpr posB],
      signed_true, Int.natCast_mul, eA, eB]
    ring
  · have eA : (A.natAbs : ℤ) = A := by omega
    have eB : (B.natAbs : ℤ) = -B := by omega
    rw [show (decide (A < 0) != decide (B < 0)) = true by simp [not_lt.mpr posA, negB],
      signed_true, Int.natCast_mul, eA, eB]
    ring
  · have eA : (A.natAbs : ℤ) = A := by omega
    have eB : (B.natAbs : ℤ) = B := by omega
    rw [show (decide (A < 0) != decide (B < 0)) = false by
        simp [not_lt.mpr posA, not_lt.mpr posB], signed_false, Int.natCast_mul, eA, eB]

/-- The truncating quotient has the magnitude of the quotient of the magnitudes, and is
negative when the signs differ. -/
theorem signed_div_natAbs :
    signed (decide (A < 0) != decide (B < 0)) (A.natAbs / B.natAbs) = A.tdiv B := by
  rcases Int.lt_or_le A 0 with negA | posA <;> rcases Int.lt_or_le B 0 with negB | posB
  · have eA : A = -(A.natAbs : ℤ) := by omega
    have eB : B = -(B.natAbs : ℤ) := by omega
    conv_rhs => rw [eA, eB]
    rw [Int.neg_tdiv, Int.tdiv_neg, Int.neg_neg, ← Int.ofNat_tdiv,
      show (decide (A < 0) != decide (B < 0)) = false by simp [negA, negB], signed_false]
  · have eA : A = -(A.natAbs : ℤ) := by omega
    have eB : B = (B.natAbs : ℤ) := by omega
    conv_rhs => rw [eA, eB]
    rw [Int.neg_tdiv, ← Int.ofNat_tdiv,
      show (decide (A < 0) != decide (B < 0)) = true by simp [negA, not_lt.mpr posB], signed_true]
  · have eA : A = (A.natAbs : ℤ) := by omega
    have eB : B = -(B.natAbs : ℤ) := by omega
    conv_rhs => rw [eA, eB]
    rw [Int.tdiv_neg, ← Int.ofNat_tdiv,
      show (decide (A < 0) != decide (B < 0)) = true by simp [not_lt.mpr posA, negB], signed_true]
  · have eA : A = (A.natAbs : ℤ) := by omega
    have eB : B = (B.natAbs : ℤ) := by omega
    conv_rhs => rw [eA, eB]
    rw [← Int.ofNat_tdiv, show (decide (A < 0) != decide (B < 0)) = false by
        simp [not_lt.mpr posA, not_lt.mpr posB], signed_false]

/-- The truncating remainder has the magnitude of the remainder of the magnitudes, and the
sign of the dividend. -/
theorem signed_mod_natAbs : signed (decide (A < 0)) (A.natAbs % B.natAbs) = A.tmod B := by
  -- the sign of the divisor does not matter
  have divisor : A.tmod B = A.tmod (B.natAbs : ℤ) := by
    rcases Int.natAbs_eq B with eB | eB
    · conv_lhs => rw [eB]
    · conv_lhs => rw [eB, Int.tmod_neg]
  rw [divisor]
  rcases Int.lt_or_le A 0 with negA | posA
  · have eA : A = -(A.natAbs : ℤ) := by omega
    conv_rhs => rw [eA]
    rw [Int.neg_tmod, ← Int.ofNat_tmod, decide_eq_true negA, signed_true]
  · have eA : A = (A.natAbs : ℤ) := by omega
    conv_rhs => rw [eA]
    rw [← Int.ofNat_tmod, decide_eq_false (not_lt.mpr posA), signed_false]

end Operations

/-! ### Maps of the magnitude -/

section Order

variable {g : ℕ → ℕ}

/-- `g` applied to the magnitude of an integer, keeping its sign. -/
def mapMagnitude (g : ℕ → ℕ) (z : ℤ) : ℤ := signed (decide (z < 0)) (g z.natAbs)

theorem mapMagnitude_signed (zero : g 0 = 0) (neg : Bool) (m : ℕ) :
    mapMagnitude g (signed neg m) = signed neg (g m) := by
  cases neg with
  | false =>
    rw [signed_false, mapMagnitude, Int.natAbs_natCast,
      decide_eq_false (not_lt.mpr (Int.natCast_nonneg m)), signed_false]
  | true =>
    -- a negative zero is read back as a positive one, which `g` does not see
    rcases Nat.eq_zero_or_pos m with rfl | positive
    · simp [mapMagnitude, zero]
    · simp [mapMagnitude, positive]

/-- A map of magnitudes that fixes zero and keeps their order keeps the order of the
integers. -/
theorem strictMono_mapMagnitude (mono : StrictMono g) (zero : g 0 = 0) :
    StrictMono (mapMagnitude g) := by
  intro z z' less
  unfold mapMagnitude
  rcases Int.lt_or_le z 0 with negZ | posZ
  · rcases Int.lt_or_le z' 0 with negZ' | posZ'
    · have larger : g z'.natAbs < g z.natAbs := mono (by omega)
      simp only [decide_eq_true negZ, decide_eq_true negZ', signed_true]
      omega
    · have positive : g 0 < g z.natAbs := mono (by omega)
      simp only [decide_eq_true negZ, decide_eq_false (not_lt.mpr posZ'), signed_true,
        signed_false]
      omega
  · have larger : g z.natAbs < g z'.natAbs := mono (by omega)
    simp only [decide_eq_false (not_lt.mpr posZ), decide_eq_false (show ¬z' < 0 by omega),
      signed_false]
    omega

/-- Signed integers compare as the signed images of their magnitudes under such a map. -/
theorem compare_signed_map (mono : StrictMono g) (zero : g 0 = 0) (neg neg' : Bool)
    (m m' : ℕ) :
    compare (signed neg (g m)) (signed neg' (g m')) = compare (signed neg m) (signed neg' m') := by
  rw [← mapMagnitude_signed zero, ← mapMagnitude_signed zero, ← cmp_eq_compare,
    ← cmp_eq_compare, (strictMono_mapMagnitude mono zero).cmp_map_eq]

end Order

end SignMagnitude
