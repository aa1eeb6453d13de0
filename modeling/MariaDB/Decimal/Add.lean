/-
Addition and subtraction of decimals: `do_add`, `do_sub`, `decimal_add`, `decimal_sub`, and
`max_decimal`, which an overflowing sum is set to.

Both operations align the two numbers at the point and run a carry (borrow) chain over the
words from the last fraction word up, writing the result down from the end of its words.
`do_add` reserves a word for a carry out of the integer part when the first words already
add up to `DIG_MAX` or more; `do_sub` first orders the magnitudes as `decimal_cmp` does and
subtracts the smaller from the larger. When the words do not fit in the result,
`FIX_INTG_FRAC_ERROR` cuts the fraction words (`E_DEC_TRUNCATED`) or gives up
(`E_DEC_OVERFLOW`).
-/

import MariaDB.Library.Carry
import MariaDB.Decimal.Bin
import MariaDB.Decimal.Compare

namespace MariaDB.Decimal

/-! ### `max_decimal` -/

end MariaDB.Decimal
