/-
Rounding a decimal to a number of fraction digits, `decimal_round` of `strings/decimal.c`.

`decimal_round` keeps `frac0` fraction words (`ROUND_UP(scale)`, or `scale / 9` words fewer
when `scale` is negative), copies the words into `to` when it is another buffer, and then
decides from the dropped digits whether the last kept one goes up. When `scale` ends a word the
test reads the dropped words (all of them towards infinity, the first digit of the next word to
the nearest); otherwise it reads the first dropped digit of the same word, and only that one:
the code's own comment says this is wrong towards infinity. A carry out of the kept words runs
up the integer part and may shift the words right to make room for a new leading word.

The contract is the multiple of `10 ^ -scale` that the mode selects. The model follows the code
step by step; a decimal whose first dropped digit is zero while a later one is not breaks the
contract for `CEILING` and `FLOOR`, and one whose first dropped digit is `5` for `HALF_EVEN`.
-/

import Mathlib.Algebra.Order.Round
import Mathlib.Algebra.Order.Field.Rat
import MariaDB.Decimal.Exact

namespace MariaDB.Decimal

/-! ### The contract -/

/-- `decimal_round_mode`. -/
inductive DecimalRoundMode
  | truncate
  | halfEven
  | halfUp
  | ceiling
  | floor
  deriving Repr, DecidableEq

/-- The integer a mode selects for `y`: towards zero, to the nearest with ties away from zero or
to even, towards `+∞` or towards `-∞`. -/
def selectInteger : DecimalRoundMode → ℚ → ℤ
  | .truncate, y => if y < 0 then ⌈y⌉ else ⌊y⌋
  | .halfUp, y => if y < 0 then -⌊-y + 1 / 2⌋ else ⌊y + 1 / 2⌋
  | .halfEven, y =>
    if y - ⌊y⌋ < 1 / 2 then ⌊y⌋
    else if 1 / 2 < y - ⌊y⌋ then ⌊y⌋ + 1
    else if ⌊y⌋ % 2 = 0 then ⌊y⌋ else ⌊y⌋ + 1
  | .ceiling, y => ⌈y⌉
  | .floor, y => ⌊y⌋

/-- The multiple of `10 ^ -scale` that `mode` selects for `x`. -/
def roundToScale (mode : DecimalRoundMode) (scale : ℤ) (x : ℚ) : ℚ :=
  selectInteger mode (x * 10 ^ scale) / 10 ^ scale

/-! ### The steps of `decimal_round` -/

/-- `DIG_MASK`: the weight of the first digit of a word. -/
def digMask : ℕ := 100000000

/-- `round_digit`: the first dropped digit above which the kept digits go up (`10` never). -/
def roundDigit (mode : DecimalRoundMode) (sign : Bool) : ℕ :=
  match mode with
  | .halfUp | .halfEven => 5
  | .ceiling => if sign then 10 else 0
  | .floor => if sign then 0 else 10
  | .truncate => 10

/-- `frac0`: the fraction words kept, `ROUND_UP(scale)` for a positive scale and `scale / 9`,
rounded towards zero as C divides, otherwise. -/
def keptFracWords (scale : ℤ) : ℤ :=
  if 0 < scale then (scale + (digPerDec1 - 1)) / digPerDec1 else scale.tdiv digPerDec1

/-- The words from position `start` up to position `stop` set to zero, none when `stop` is not
past `start`. -/
def zeroFrom (buf : List ℕ) (start stop : ℕ) : List ℕ :=
  buf.take start ++ List.replicate (stop - start) 0 ++ buf.drop (max start stop)

/-- The copy `while (buf0 < p0) *(--p1) = *(--p0)` of the first `count` words into `to`, with
the sign and `to->intg=MY_MIN(intg0, len)*DIG_PER_DEC1`. -/
def copyWords (fromDecimal toDecimal : DecimalT) (intg0 count : ℕ) : DecimalT :=
  { toDecimal with
    buf := fromDecimal.buf.take count ++ toDecimal.buf.drop count
    sign := fromDecimal.sign
    intg := min intg0 toDecimal.len * digPerDec1 }

/-- `do_inc` when `scale` ends a word: the `dropped` words after position `last` for a
`round_digit` of `0`, the first digit of the next word for `5`. -/
def alignedIncrement (buf : List ℕ) (last : ℤ) (dropped : ℕ) (mode : DecimalRoundMode)
    (digit : ℕ) (kept : ℤ) : Bool :=
  match digit with
  | 0 => ((buf.drop (last + 1).toNat).take dropped).any (· ≠ 0)
  | 5 =>
    let x := buf.getD (last + 1).toNat 0 / digMask
    decide (5 < x) ||
      (x == 5 && (mode == .halfUp || (decide (0 < kept) && buf.getD last.toNat 0 % 2 == 1)))
  | _ => false

/-- The word at the rounding position when `scale` does not end a word: `pos` digits cut, the
first of them compared with `round_digit`. -/
def roundWord (word pos digit : ℕ) (mode : DecimalRoundMode) : ℕ :=
  let x := word / powers10 pos
  let y := x % 10
  let x :=
    if digit < y ∨ (digit = 5 ∧ y = 5 ∧ (mode = .halfUp ∨ (x / 10) % 2 = 1)) then x + 10 else x
  powers10 pos * (x - y)

/-- `while (carry && --buf1 >= to->buf) ADD(*buf1, *buf1, 0, carry)` from position `cur`: the
buffer, the position the loop stops at, and the carry left past the first word. -/
def carryUp (buf : List ℕ) : ℕ → List ℕ × ℕ × Bool
  | 0 => (buf, 0, true)
  | i + 1 =>
    let a := buf.getD i 0 + 1
    if digBase ≤ a then carryUp (buf.set i (a - digBase)) i else (buf.set i a, i, false)

/-- `for (buf1=to->buf+top; buf1 > to->buf; buf1--) buf1[0]=buf1[-1]; *buf1=1;`. -/
def shiftRight (buf : List ℕ) (top : ℕ) : List ℕ :=
  1 :: buf.take top ++ buf.drop (top + 1)

/-- The loop `for (;;) { if (*buf1) break; if (buf1-- == to->buf) ... }` from position `i`: the
first non-zero word at or before it. -/
def findNonzeroDown (buf : List ℕ) : ℕ → Option ℕ
  | 0 => if buf.getD 0 0 ≠ 0 then some 0 else none
  | i + 1 => if buf.getD (i + 1) 0 ≠ 0 then some (i + 1) else findNonzeroDown buf i

/-- The end of `decimal_round` once the kept words are rounded: the words past the kept ones
cleared when some were dropped, `intg` grown when the word at `buf1` reached a new digit (the
`999.9 -> 1000` case), and `to->frac=scale`. -/
def finishRound (toDecimal : DecimalT) (buf : List ℕ) (cur intg0 frac1 : ℕ) (frac0 scale : ℤ)
    (error : DecimalError) : DecimalT × DecimalError :=
  let buf := if frac0 < frac1 then
      zeroFrom buf (if scale = 0 ∧ intg0 = 0 then 1 else (intg0 + frac0).toNat) toDecimal.len
    else buf
  let firstDig := toDecimal.intg % digPerDec1
  let intg := if firstDig ≠ 0 ∧ powers10 firstDig ≤ buf.getD cur 0 then toDecimal.intg + 1
    else toDecimal.intg
  ({ toDecimal with buf := buf, intg := intg, frac := (max scale 0).toNat }, error)

/-- The carry of `decimal_round` from the word at position `cur`, which reached `DIG_BASE`: up
the words, and past the first one a shift right that makes room for a new leading `1`, giving
up a fraction word (`E_DEC_TRUNCATED`) when the buffer is full. -/
def carryRound (toDecimal : DecimalT) (buf : List ℕ) (cur intg0 frac1 : ℕ) (frac0 scale : ℤ)
    (error : DecimalError) : DecimalT × DecimalError :=
  let (buf, stop, carry) := carryUp (buf.set cur (buf.getD cur 0 - digBase)) cur
  if carry then
    let (frac0, scale, error) := if toDecimal.len ≤ intg0 + frac0 then
        (frac0 - 1, (frac0 - 1) * digPerDec1, DecimalError.truncated)
      else (frac0, scale, error)
    finishRound { toDecimal with intg := toDecimal.intg + 1 }
      (shiftRight buf (intg0 + (max frac0 0).toNat)) 0 (intg0 + 1) frac1 frac0 scale error
  else finishRound toDecimal buf stop intg0 frac1 frac0 scale error

/-- `decimal_round` after the words are in `to`: `frac0` and `scale` as the buffer allows, and
`intg0`, `frac1` and the sign read from `from`. -/
def roundWords (toDecimal : DecimalT) (fromFrac intg0 frac1 : ℕ) (sign : Bool) (frac0 scale : ℤ)
    (error : DecimalError) (mode : DecimalRoundMode) : DecimalT × DecimalError :=
  if frac1 < frac0 then
    -- more fraction words than `from` has: zeros after its last one
    ({ toDecimal with
        buf := zeroFrom toDecimal.buf (intg0 + frac1) (intg0 + frac0).toNat
        frac := scale.toNat }, error)
  else if fromFrac ≤ scale then ({ toDecimal with frac := scale.toNat }, error)
  else
    let last : ℤ := intg0 + frac0 - 1
    let digit := roundDigit mode sign
    -- the rounded word, and where `buf1` points: `none` for the zero of `decimal_make_zero`
    let rounded : Option (List ℕ × ℕ) :=
      if scale = frac0 * digPerDec1 then
        if alignedIncrement toDecimal.buf last (frac1 - frac0).toNat mode digit (intg0 + frac0)
        then
          if 0 < intg0 + frac0 then
            some (toDecimal.buf.set last.toNat (toDecimal.buf.getD last.toNat 0 + 1), last.toNat)
          else some (toDecimal.buf.set 0 digBase, 0)
        else if intg0 + frac0 = 0 then none
        else some (toDecimal.buf, last.toNat)
      else
        let pos := (frac0 * digPerDec1 - scale - 1).toNat
        some (toDecimal.buf.set last.toNat
          (roundWord (toDecimal.buf.getD last.toNat 0) pos digit mode), last.toNat)
    match rounded with
    | none => (decimalMakeZero toDecimal, .ok)
    | some (buf, cur) =>
      if digBase ≤ buf.getD cur 0 then carryRound toDecimal buf cur intg0 frac1 frac0 scale error
      else
        match findNonzeroDown buf cur with
        | none =>
          -- every kept word is zero: the zero with the proper scale
          ({ toDecimal with
              buf := zeroFrom buf 0 (frac0 + 1).toNat
              intg := 1
              frac := (max scale 0).toNat
              sign := false }, .ok)
        | some cur => finishRound toDecimal buf cur intg0 frac1 frac0 scale error

/-- The start of `decimal_round`: `frac0`, `scale` and the error once `frac0` is cut to the
buffer. -/
def roundPlan (fromDecimal : DecimalT) (len : ℕ) (scale : ℤ) : ℤ × ℤ × DecimalError :=
  let intg0 := roundUp fromDecimal.intg
  let frac0 := keptFracWords scale
  if (len : ℤ) < frac0 + intg0 then
    ((len : ℤ) - intg0, ((len : ℤ) - intg0) * digPerDec1, .truncated)
  else (frac0, scale, .ok)

/-- `decimal_round(from, to, scale, mode)` with `to` another buffer than `from`. -/
def decimalRound (fromDecimal toDecimal : DecimalT) (scale : ℤ) (mode : DecimalRoundMode) :
    DecimalT × DecimalError :=
  let intg0 := roundUp fromDecimal.intg
  let frac1 := roundUp fromDecimal.frac
  let (frac0, scale, error) := roundPlan fromDecimal toDecimal.len scale
  if scale + fromDecimal.intg < 0 then (decimalMakeZero toDecimal, .ok)
  else
    roundWords (copyWords fromDecimal toDecimal intg0 (intg0 + (max (frac1 : ℤ) frac0).toNat))
      fromDecimal.frac intg0 frac1 fromDecimal.sign frac0 scale error mode

/-- `decimal_round(d, d, scale, mode)`: rounding in place. -/
def decimalRoundInPlace (d : DecimalT) (scale : ℤ) (mode : DecimalRoundMode) :
    DecimalT × DecimalError :=
  let (frac0, scale, error) := roundPlan d d.len scale
  if scale + d.intg < 0 then (decimalMakeZero d, .ok)
  else roundWords d d.frac (roundUp d.intg) (roundUp d.frac) d.sign frac0 scale error mode

/-! ### Where the code leaves the contract -/

/-- When `scale` does not end a word, only the first dropped digit is read: `CEILING` keeps
`1.001` at `1.0` instead of `1.1`, and `HALF_EVEN` takes `0.251` for a tie and rounds it to the
even `0.2` instead of the nearer `0.3`, both with `E_DEC_OK`. -/
theorem decimalRound_drops_later_digits :
    WellFormed ⟨1, 3, 3, false, [1, 1000000, 0]⟩ ∧
      (decimalRoundInPlace ⟨1, 3, 3, false, [1, 1000000, 0]⟩ 1 .ceiling).2 = .ok ∧
      value (decimalRoundInPlace ⟨1, 3, 3, false, [1, 1000000, 0]⟩ 1 .ceiling).1 = 1 ∧
      roundToScale .ceiling 1 (value ⟨1, 3, 3, false, [1, 1000000, 0]⟩) = 11 / 10 ∧
    WellFormed ⟨1, 3, 3, false, [0, 251000000, 0]⟩ ∧
      (decimalRoundInPlace ⟨1, 3, 3, false, [0, 251000000, 0]⟩ 1 .halfEven).2 = .ok ∧
      value (decimalRoundInPlace ⟨1, 3, 3, false, [0, 251000000, 0]⟩ 1 .halfEven).1 = 1 / 5 ∧
      roundToScale .halfEven 1 (value ⟨1, 3, 3, false, [0, 251000000, 0]⟩) = 3 / 10 :=
  ⟨by decide, by decide +kernel, by decide +kernel, by decide +kernel, by decide,
    by decide +kernel, by decide +kernel, by decide +kernel⟩

end MariaDB.Decimal
