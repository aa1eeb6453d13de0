/-
The order of the binary keys of `decimal2bin`.

For a fraction of no more digits than the scale the number the format stores is exact: it is
the value of the decimal times ten to the scale, as the digits past `frac` of the last fraction
word are zero. With the order theorem of the format and the theorem that `decimal_cmp` is the
numeric order, `memcmp` on the keys of two decimals that fit one format is `decimal_cmp`, and
the keys have the length `decimal_bin_size` gives.
-/

import MariaDB.Decimal.Writer

namespace MariaDB.Decimal

/-! ### The stored number is exact -/

/-- The fraction words hold no digits past `frac`: their number is a multiple of the
powers of ten below the last digit. -/
theorem pow_dvd_fracPart {d : DecimalT} (wellFormed : WellFormed d) :
    10 ^ (digPerDec1 * fracWords d - d.frac) ∣ Positional.value digBase (fracPart d) := by
  have present := wellFormed.words_present
  by_cases whole : d.frac % digPerDec1 = 0
  · rw [show digPerDec1 * fracWords d - d.frac = 0 by
      rw [fracWords, roundUp]; unfold digPerDec1 at *; omega, Nat.pow_zero]
    exact Nat.one_dvd _
  · have lengthEq := length_fracPart present
    have nonempty : fracPart d ≠ [] := List.ne_nil_of_length_pos (by
      rw [lengthEq, fracWords, roundUp]; unfold digPerDec1 at *; omega)
    have lastEq : (fracPart d).getLast nonempty = d.buf.getD (intWords d + fracWords d - 1) 0 := by
      rw [List.getLast_eq_getElem, List.getD_eq_getElem _ _ (by
        have : 0 < fracWords d := lengthEq ▸ List.length_pos_of_ne_nil nonempty
        omega)]
      simp only [fracPart, List.getElem_take, List.getElem_drop]
      congr 1
      have : 0 < fracWords d := lengthEq ▸ List.length_pos_of_ne_nil nonempty
      rw [← fracPart, lengthEq]
      omega
    have digitsEq : digPerDec1 * fracWords d - d.frac = digPerDec1 - d.frac % digPerDec1 := by
      rw [fracWords, roundUp]; unfold digPerDec1 at *; omega
    have lastDvd : 10 ^ (digPerDec1 - d.frac % digPerDec1) ∣ (fracPart d).getLast nonempty := by
      rw [lastEq]
      exact Nat.dvd_of_mod_eq_zero (wellFormed.trailing whole)
    have baseDvd : 10 ^ (digPerDec1 - d.frac % digPerDec1) ∣ digBase :=
      Nat.pow_dvd_pow 10 (Nat.sub_le _ _)
    rw [digitsEq, ← List.dropLast_append_getLast nonempty, Positional.value_append,
      List.length_singleton, Nat.pow_one, Positional.value_cons, List.length_nil, Nat.pow_zero,
      Nat.mul_one, Positional.value_nil, Nat.add_zero]
    exact Nat.dvd_add (Dvd.dvd.mul_left baseDvd _) lastDvd

/-- For a fraction of no more digits than the scale, the stored number is exact: it is the
magnitude times `10 ^ scale`. -/
theorem storedNumber_exact {d : DecimalT} {scale : ℕ} (wellFormed : WellFormed d)
    (fracFits : d.frac ≤ scale) :
    (storedNumber d scale : ℚ) = magnitude d * 10 ^ scale := by
  have present := wellFormed.words_present
  have fracDvd : digBase ^ fracWords d ∣ Positional.value digBase (fracPart d) * 10 ^ scale := by
    have enough : digPerDec1 * fracWords d ≤ (digPerDec1 * fracWords d - d.frac) + scale := by
      rw [fracWords, roundUp]; unfold digPerDec1 at *; omega
    rw [digBase_pow]
    exact (Nat.pow_dvd_pow 10 enough).trans (by
      rw [Nat.pow_add]; exact Nat.mul_dvd_mul (pow_dvd_fracPart wellFormed) dvd_rfl)
  have scaledDvd : digBase ^ fracWords d ∣ scaled d * 10 ^ scale := by
    rw [scaled_eq_intPart present, Nat.add_mul, Nat.mul_right_comm]
    exact Nat.dvd_add (Dvd.intro_left _ rfl) fracDvd
  rw [storedNumber, Nat.cast_div scaledDvd
    (Nat.cast_ne_zero.mpr (Nat.pow_pos (by decide : 0 < digBase)).ne'), magnitude]
  push_cast
  ring

theorem storedNumber_lt {d : DecimalT} {precision scale : ℕ} (wellFormed : WellFormed d)
    (fits : intPart d < 10 ^ (precision - scale)) :
    storedNumber d scale < 10 ^ (binGroups precision scale).sum := by
  have below := fracNumber_lt scale wellFormed.words_present wellFormed.word_lt
  rw [storedNumber_eq scale wellFormed.words_present, sum_binGroups, Nat.pow_add]
  calc _ < 10 ^ scale + intPart d * 10 ^ scale := Nat.add_lt_add_right below _
    _ = (intPart d + 1) * 10 ^ scale := by ring
    _ ≤ 10 ^ (precision - scale) * 10 ^ scale := Nat.mul_le_mul_right _ fits

theorem storedNumber_ne_zero {d : DecimalT} {scale : ℕ} (wellFormed : WellFormed d)
    (fracFits : d.frac ≤ scale) (negative : d.sign = true) : storedNumber d scale ≠ 0 := by
  intro zero
  have exact := storedNumber_exact wellFormed fracFits
  rw [zero, Nat.cast_zero] at exact
  have positive := mul_pos (magnitude_pos (wellFormed.negative_nonzero negative))
    (pow_pos (by norm_num : (0 : ℚ) < 10) scale)
  exact absurd exact.symm positive.ne'

/-- The signed stored number is the value scaled by `10 ^ scale`. -/
theorem signed_storedNumber {d : DecimalT} {scale : ℕ} (wellFormed : WellFormed d)
    (fracFits : d.frac ≤ scale) :
    ((signed d.sign (storedNumber d scale) : ℤ) : ℚ) = value d * 10 ^ scale := by
  rw [signed, value_eq_magnitude]
  cases d.sign
  · rw [if_neg (by decide), if_neg (by decide), Int.cast_natCast, storedNumber_exact wellFormed fracFits]
  · rw [if_pos rfl, if_pos rfl, Int.cast_neg, Int.cast_natCast, storedNumber_exact wellFormed fracFits,
      neg_mul]

theorem compare_signed_storedNumber {d1 d2 : DecimalT} {scale : ℕ} (wellFormed1 : WellFormed d1)
    (wellFormed2 : WellFormed d2) (fracFits1 : d1.frac ≤ scale) (fracFits2 : d2.frac ≤ scale) :
    compare (signed d1.sign (storedNumber d1 scale)) (signed d2.sign (storedNumber d2 scale)) =
      compare (value d1) (value d2) := by
  rw [← cmp_eq_compare, ← (Int.cast_strictMono (R := ℚ)).cmp_map_eq,
    signed_storedNumber wellFormed1 fracFits1, signed_storedNumber wellFormed2 fracFits2,
    cmp_mul_pos_right (pow_pos (by norm_num) scale), cmp_eq_compare]

/-! ### `memcmp` on the keys is `decimal_cmp` -/

theorem decimal2bin_compare {d1 d2 : DecimalT} {precision scale : ℕ}
    (wellFormed1 : WellFormed d1) (wellFormed2 : WellFormed d2)
    (fits1 : intPart d1 < 10 ^ (precision - scale)) (fits2 : intPart d2 < 10 ^ (precision - scale))
    (fracFits1 : d1.frac ≤ scale) (fracFits2 : d2.frac ≤ scale) :
    (decimal2bin d1 precision scale).1.length = decimalBinSize precision scale ∧
      (decimal2bin d2 precision scale).1.length = decimalBinSize precision scale ∧
      compare (decimal2bin d1 precision scale).1 (decimal2bin d2 precision scale).1 =
        compare (decimalCmp d1 d2) 0 ∧
      (value d1 = value d2 →
        (decimal2bin d1 precision scale).1 = (decimal2bin d2 precision scale).1) := by
  rw [decimal2bin_eq_binImage wellFormed1 fits1 fracFits1,
    decimal2bin_eq_binImage wellFormed2 fits2 fracFits2]
  refine ⟨by rw [length_binImage, sum_map_binGroups], by rw [length_binImage, sum_map_binGroups],
    ?_, fun same => ?_⟩
  · rw [compare_binImage _ (by rw [binGroups_eq]; exact fun count member =>
        (List.mem_append.mp member).elim (short_intGroups _ count) (short_fracGroups _ count))
      _ _ _ _ (storedNumber_lt wellFormed1 fits1) (storedNumber_lt wellFormed2 fits2)
      (storedNumber_ne_zero wellFormed1 fracFits1) (storedNumber_ne_zero wellFormed2 fracFits2),
      compare_signed_storedNumber wellFormed1 wellFormed2 fracFits1 fracFits2,
      compare_decimalCmp wellFormed1 wellFormed2]
  · refine binImage_eq_of_signed_eq _ (storedNumber_ne_zero wellFormed1 fracFits1)
      (storedNumber_ne_zero wellFormed2 fracFits2) ?_
    have scaled : value d1 * 10 ^ scale = value d2 * 10 ^ scale := by rw [same]
    rw [← signed_storedNumber wellFormed1 fracFits1, ← signed_storedNumber wellFormed2 fracFits2]
      at scaled
    exact_mod_cast scaled

theorem decimal2bin_compare_twelve_and_a_half :
    (WellFormed ⟨2, 1, 2, false, [12, 500000000]⟩ ∧ WellFormed ⟨1, 2, 2, true, [3, 250000000]⟩ ∧
      intPart ⟨2, 1, 2, false, [12, 500000000]⟩ < 10 ^ (5 - 2) ∧
      intPart ⟨1, 2, 2, true, [3, 250000000]⟩ < 10 ^ (5 - 2) ∧ 1 ≤ 2 ∧ 2 ≤ 2) ∧
    ((decimal2bin ⟨2, 1, 2, false, [12, 500000000]⟩ 5 2).1.length = decimalBinSize 5 2 ∧
      (decimal2bin ⟨1, 2, 2, true, [3, 250000000]⟩ 5 2).1.length = decimalBinSize 5 2 ∧
      compare (decimal2bin ⟨2, 1, 2, false, [12, 500000000]⟩ 5 2).1
          (decimal2bin ⟨1, 2, 2, true, [3, 250000000]⟩ 5 2).1 =
        compare (decimalCmp ⟨2, 1, 2, false, [12, 500000000]⟩ ⟨1, 2, 2, true, [3, 250000000]⟩) 0 ∧
      (value ⟨2, 1, 2, false, [12, 500000000]⟩ = value ⟨1, 2, 2, true, [3, 250000000]⟩ →
        (decimal2bin ⟨2, 1, 2, false, [12, 500000000]⟩ 5 2).1 =
          (decimal2bin ⟨1, 2, 2, true, [3, 250000000]⟩ 5 2).1)) :=
  have hypotheses : WellFormed ⟨2, 1, 2, false, [12, 500000000]⟩ ∧
      WellFormed ⟨1, 2, 2, true, [3, 250000000]⟩ ∧
      intPart ⟨2, 1, 2, false, [12, 500000000]⟩ < 10 ^ (5 - 2) ∧
      intPart ⟨1, 2, 2, true, [3, 250000000]⟩ < 10 ^ (5 - 2) ∧ 1 ≤ 2 ∧ 2 ≤ 2 := by decide
  ⟨hypotheses, decimal2bin_compare hypotheses.1 hypotheses.2.1 hypotheses.2.2.1
    hypotheses.2.2.2.1 hypotheses.2.2.2.2.1 hypotheses.2.2.2.2.2⟩

end MariaDB.Decimal
