/-
Fields packed into a natural number with shifts, masks and ors.

A packed format puts fields side by side in one number: each is masked to its width, shifted
to its place and or-ed with the others; a field split across two bytes is cut by a mask and
shifted down. Where the fields do not overlap the or is a sum, a mask of the low bits is a
remainder and a shift is a product or a quotient, so every packing and unpacking becomes the
arithmetic of `*`, `/`, `%` and `+`, where `omega` takes over. The masks are stated as
hypotheses (`mask = 2 ^ width - 1`), so that the lemmas apply to the literals a format writes.
-/

import Mathlib.Data.Nat.Bitwise

namespace BitFields

/-- Fields packed by a shift and an or that do not overlap are packed by a sum. -/
theorem shiftLeft_lor_eq_add {low : ℕ} (high shift : ℕ) (small : low < 2 ^ shift) :
    high <<< shift ||| low = high * 2 ^ shift + low := by
  rw [← Nat.shiftLeft_add_eq_or_of_lt small, Nat.shiftLeft_eq]

/-- The same with the low field written first. -/
theorem lor_shiftLeft_eq_add {low : ℕ} (high shift : ℕ) (small : low < 2 ^ shift) :
    low ||| high <<< shift = high * 2 ^ shift + low := by
  rw [Nat.lor_comm, shiftLeft_lor_eq_add high shift small]

/-- A flag set at bit `shift` above a field that fits below it. -/
theorem flag_lor_eq_add (flag : Bool) {low : ℕ} (bit shift : ℕ) (isBit : bit = 2 ^ shift)
    (small : low < 2 ^ shift) :
    (if flag then bit else 0) ||| low = flag.toNat * 2 ^ shift + low := by
  cases flag with
  | false => simp
  | true =>
    have one : bit = 1 <<< shift := by rw [isBit, Nat.one_shiftLeft]
    simp only [if_true, one, shiftLeft_lor_eq_add 1 shift small, Bool.toNat_true]

/-- A mask of the low `width` bits leaves the remainder modulo `2 ^ width`. -/
theorem and_mask_eq_mod (x mask width : ℕ) (isMask : mask = 2 ^ width - 1) :
    x &&& mask = x % 2 ^ width := by
  rw [isMask, Nat.and_two_pow_sub_one_eq_mod]

/-- A field of `width` bits at `shift`, cut by its mask and shifted down. -/
theorem and_mask_shiftRight (x mask width shift : ℕ)
    (isMask : mask = (2 ^ width - 1) <<< shift) :
    (x &&& mask) >>> shift = x / 2 ^ shift % 2 ^ width := by
  rw [isMask, Nat.shiftRight_and_distrib, Nat.shiftLeft_shiftRight,
    Nat.and_two_pow_sub_one_eq_mod, Nat.shiftRight_eq_div_pow]

/-- A test of bit `shift`. -/
theorem decide_and_bit_ne_zero (x bit shift : ℕ) (isBit : bit = 2 ^ shift) :
    decide (x &&& bit ≠ 0) = decide (x / 2 ^ shift % 2 = 1) := by
  rw [isBit, Nat.and_two_pow, Nat.testBit_eq_decide_div_mod_eq]
  by_cases set : x / 2 ^ shift % 2 = 1 <;> simp [set]

/-- A flag set above a field that fits below it is read back by its bit. -/
theorem flag_of_bit (flag : Bool) {low : ℕ} (shift : ℕ) (small : low < 2 ^ shift) :
    decide ((flag.toNat * 2 ^ shift + low) / 2 ^ shift % 2 = 1) = flag := by
  have high : (flag.toNat * 2 ^ shift + low) / 2 ^ shift = flag.toNat := by
    rw [Nat.add_comm, Nat.add_mul_div_right _ _ (Nat.two_pow_pos shift), Nat.div_eq_of_lt small,
      Nat.zero_add]
  rw [high]
  cases flag <;> rfl

/-- A field or-ed onto a number whose low `shift` bits are clear is added to it. -/
theorem lor_eq_add_of_lt {high low : ℕ} (shift : ℕ) (aligned : high % 2 ^ shift = 0)
    (small : low < 2 ^ shift) : high ||| low = high + low := by
  have split : high = 2 ^ shift * (high / 2 ^ shift) := by
    have whole := Nat.div_add_mod high (2 ^ shift)
    rw [aligned, Nat.add_zero] at whole
    exact whole.symm
  rw [split, ← Nat.two_pow_add_eq_or_of_lt small]

/-- Three bytes assembled by shifts and ors, most significant first. -/
theorem bytes_lor_three (b0 : ℕ) {b1 b2 : ℕ} (small1 : b1 < 2 ^ 8) (small2 : b2 < 2 ^ 8) :
    b0 <<< 16 ||| b1 <<< 8 ||| b2 = b0 * 2 ^ 16 + b1 * 2 ^ 8 + b2 := by
  have low : b1 * 2 ^ 8 + b2 < 2 ^ 16 := by omega
  rw [Nat.lor_assoc, shiftLeft_lor_eq_add b1 8 small2, shiftLeft_lor_eq_add b0 16 low,
    Nat.add_assoc]

/-- Four bytes assembled by shifts and ors, most significant first. -/
theorem bytes_lor_four (b0 : ℕ) {b1 b2 b3 : ℕ} (small1 : b1 < 2 ^ 8) (small2 : b2 < 2 ^ 8)
    (small3 : b3 < 2 ^ 8) :
    b0 <<< 24 ||| b1 <<< 16 ||| b2 <<< 8 ||| b3 =
      b0 * 2 ^ 24 + b1 * 2 ^ 16 + b2 * 2 ^ 8 + b3 := by
  have low : b1 * 2 ^ 16 + b2 * 2 ^ 8 + b3 < 2 ^ 24 := by omega
  rw [Nat.lor_assoc, Nat.lor_assoc, ← Nat.lor_assoc (b1 <<< 16), bytes_lor_three b1 small2 small3,
    shiftLeft_lor_eq_add b0 24 low]
  omega

end BitFields
