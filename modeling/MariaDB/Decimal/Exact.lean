/-
The contract of `decimal_add` and `decimal_sub`.

Unless the result overflows, both return the sum (the difference) of the two numbers, each
first cut to the fraction words that fit in the result. With `E_DEC_OK` nothing is cut and the
result is exact; with `E_DEC_TRUNCATED` the operands lose their low fraction words before they
meet, so the result is the sum of the truncated operands, not the truncated sum. An exact
result is a well-formed decimal with the longer of the two fractions, except for the zero of
`decimal_make_zero` that `do_sub` returns for equal magnitudes. `E_DEC_OVERFLOW` is decided by
the integer words alone: those of the longer integer part and a word for a carry in `do_add`,
those of the larger magnitude without its leading zero words in `do_sub`.
-/

import MariaDB.Decimal.Difference

namespace MariaDB.Decimal

/-! ### Cutting the fraction truncates toward zero -/

/-- A rational number truncated toward zero to `words` fraction words. -/
def truncate (words : ℕ) (x : ℚ) : ℚ :=
  if x < 0 then -((⌊-x * (digBase : ℚ) ^ words⌋₊ : ℚ) / (digBase : ℚ) ^ words)
  else (⌊x * (digBase : ℚ) ^ words⌋₊ : ℚ) / (digBase : ℚ) ^ words

section Cut

variable {d : DecimalT}

end Cut

/-! ### The digits past `frac` -/

section Trailing

variable {d : DecimalT}

end Trailing

/-! ### `do_add` -/

section DoAdd

variable {from1 from2 target : DecimalT}

variable (wellFormed1 : WellFormed from1) (wellFormed2 : WellFormed from2)
  (room : target.len ≤ target.buf.length)

end DoAdd

/-! ### `do_sub` -/

section DoSub

variable {from1 from2 target : DecimalT}

theorem intWords_decimalMakeZero (d : DecimalT) : intWords (decimalMakeZero d) = 1 :=
  show roundUp 1 = 1 by decide

theorem fracWords_decimalMakeZero (d : DecimalT) : fracWords (decimalMakeZero d) = 0 :=
  show roundUp 0 = 0 by decide

theorem usedWords_decimalMakeZero (d : DecimalT) : usedWords (decimalMakeZero d) = [0] := by
  rw [usedWords, intWords_decimalMakeZero, fracWords_decimalMakeZero]
  rfl

variable (wellFormed1 : WellFormed from1) (wellFormed2 : WellFormed from2)
  (room : target.len ≤ target.buf.length)

end DoSub

/-! ### `decimal_add` and `decimal_sub` -/

section Spec

variable {from1 from2 target : DecimalT} {op : ℚ → ℚ → ℚ}
  (wellFormed1 : WellFormed from1) (wellFormed2 : WellFormed from2)
  (room : target.len ≤ target.buf.length)

end Spec

end MariaDB.Decimal
