/-
Multiplying a decimal by a power of ten in place: `decimal_shift` of `strings/decimal.c`, with
`digits_bounds`, `do_mini_left_shift` and `do_mini_right_shift`.

`digits_bounds` finds the first and past-the-last non-zero digit of the number, counted from
the first digit of the buffer. `decimal_shift` moves the point by `shift` digits: when the
digits from the new point do not fit in `len` words it gives up fraction words, rounding the
number half up by `decimal_round` (`E_DEC_TRUNCATED`), or gives up (`E_DEC_OVERFLOW`) when
even that does not leave room. It then aligns the digits to the words by a shift of less than
a word, moves whole words, and clears the words between the digits and the point.

The rounding runs before the digits move and may carry into a new leading digit; the bounds of
the digits and the integer digit count were taken before it and are not taken again, so after
such a carry the words are moved as if the number had its old first digit, and the carried
digit is lost.
-/

import MariaDB.Decimal.Round

namespace MariaDB.Decimal

/-! ### `digits_bounds` -/

/-- `ROUND_UP` on a C `int`, dividing as C does. -/
def roundUpInt (x : ℤ) : ℤ := (x + (digPerDec1 - 1)).tdiv digPerDec1

/-- `while (buf_beg < end && *buf_beg == 0) buf_beg++`. -/
def skipZeroWordsUp (buf : List ℕ) (i stop : ℕ) : ℕ :=
  if i < stop ∧ buf.getD i 0 = 0 then skipZeroWordsUp buf (i + 1) stop else i
termination_by stop - i

/-- `while (buf_end > buf_beg && *buf_end == 0) buf_end--`. -/
def skipZeroWordsDown (buf : List ℕ) (low i : ℕ) : ℕ :=
  if low < i ∧ buf.getD i 0 = 0 then skipZeroWordsDown buf low (i - 1) else i
termination_by i

/-- `for (; *buf_beg < powers10[i--]; start++)`: the zero digits in front of a non-zero word,
from its digit `i`. -/
def leadingZeroDigits (word : ℕ) : ℕ → ℤ → ℤ
  | 0, start => start
  | i + 1, start => if word < powers10 (i + 1) then leadingZeroDigits word i (start + 1) else start

/-- `for (; *buf_end % powers10[i++] == 0; stop--)`: the zero digits at the end of a non-zero
word below `DIG_BASE`, from its digit `i`; such a word stops the loop by `i = 9`. -/
def trailingZeroDigits (word i : ℕ) (stop : ℤ) : ℤ :=
  if i ≤ digPerDec1 ∧ word % powers10 i = 0 then trailingZeroDigits word (i + 1) (stop - 1)
  else stop
termination_by digPerDec1 + 1 - i

/-- `digits_bounds`: the index of the first non-zero digit and the index past the last one,
counting the digits of the buffer from its first word; `(0, 0)` for zero. -/
def digitsBounds (d : DecimalT) : ℤ × ℤ :=
  let stopWord := intWords d + fracWords d
  let bufBeg := skipZeroWordsUp d.buf 0 stopWord
  if stopWord ≤ bufBeg then (0, 0)
  else
    let word := d.buf.getD bufBeg 0
    let start := if bufBeg = 0 ∧ d.intg ≠ 0 then
        leadingZeroDigits word ((d.intg - 1) % digPerDec1)
          (digPerDec1 - ((d.intg - 1) % digPerDec1 + 1))
      else leadingZeroDigits word (digPerDec1 - 1) (bufBeg * digPerDec1)
    let bufEnd := skipZeroWordsDown d.buf bufBeg (stopWord - 1)
    let word := d.buf.getD bufEnd 0
    let stop := if bufEnd = stopWord - 1 ∧ d.frac ≠ 0 then
        trailingZeroDigits word (digPerDec1 - ((d.frac - 1) % digPerDec1 + 1) + 1)
          (bufEnd * digPerDec1 + ((d.frac - 1) % digPerDec1 + 1))
      else trailingZeroDigits word 1 ((bufEnd + 1) * digPerDec1)
    (start, stop)

/-! ### Shifts by less than a word -/

/-- The loop of `do_mini_left_shift`: each word from position `i` to `stop` takes its low
digits up and the high digits of the next word. -/
def miniLeftShiftLoop (buf : List ℕ) (shift i stop : ℕ) : List ℕ :=
  if i < stop then
    miniLeftShiftLoop (buf.set i (buf.getD i 0 % powers10 (digPerDec1 - shift) * powers10 shift +
      buf.getD (i + 1) 0 / powers10 (digPerDec1 - shift))) shift (i + 1) stop
  else buf.set stop (buf.getD stop 0 % powers10 (digPerDec1 - shift) * powers10 shift)
termination_by stop - i

/-- `do_mini_left_shift(dec, shift, beg, last)`: the digits from `beg` to `last` moved `shift`
places to the left, into the word before when the first one has too few places. -/
def doMiniLeftShift (buf : List ℕ) (shift : ℕ) (beg last : ℤ) : List ℕ :=
  let i := (roundUpInt (beg + 1) - 1).toNat
  let stop := (roundUpInt last - 1).toNat
  let buf := if beg.tmod digPerDec1 < shift then
      buf.set (i - 1) (buf.getD i 0 / powers10 (digPerDec1 - shift))
    else buf
  miniLeftShiftLoop buf shift i stop

/-- The loop of `do_mini_right_shift`: each word from position `i` down to `stop` takes its
high digits down and the low digits of the word before. -/
def miniRightShiftLoop (buf : List ℕ) (shift i stop : ℕ) : List ℕ :=
  if stop < i then
    miniRightShiftLoop (buf.set i (buf.getD i 0 / powers10 shift +
      buf.getD (i - 1) 0 % powers10 shift * powers10 (digPerDec1 - shift))) shift (i - 1) stop
  else buf.set stop (buf.getD stop 0 / powers10 shift)
termination_by i

/-- `do_mini_right_shift(dec, shift, beg, last)`: the digits from `beg` to `last` moved `shift`
places to the right, into the word after when the last one has too few places. -/
def doMiniRightShift (buf : List ℕ) (shift : ℕ) (beg last : ℤ) : List ℕ :=
  let i := (roundUpInt last - 1).toNat
  let stop := (roundUpInt (beg + 1) - 1).toNat
  let buf := if (digPerDec1 : ℤ) - ((last - 1).tmod digPerDec1 + 1) < shift then
      buf.set (i + 1) (buf.getD i 0 % powers10 shift * powers10 (digPerDec1 - shift))
    else buf
  miniRightShiftLoop buf shift i stop

/-! ### Moving whole words -/

/-- `for(; to <= barier; to++) *to= *(to + d_shift)`. -/
def copyWordsLeft (buf : List ℕ) (dShift i barier : ℕ) : List ℕ :=
  if i ≤ barier then copyWordsLeft (buf.set i (buf.getD (i + dShift) 0)) dShift (i + 1) barier
  else buf
termination_by barier + 1 - i

/-- `for(; to >= barier; to--) *to= *(to - d_shift)`. -/
def copyWordsRight (buf : List ℕ) (dShift i barier : ℕ) : List ℕ :=
  if barier ≤ i then
    let buf := buf.set i (buf.getD (i - dShift) 0)
    if i = 0 then buf else copyWordsRight buf dShift (i - 1) barier
  else buf
termination_by i

/-- The end of `decimal_shift`: whole words moved when the new point is not in the first word of
the digits, the words between the digits and the point cleared, and `intg` and `frac` set. -/
def moveWords (d : DecimalT) (beg stop newPoint digitsInt digitsFrac : ℤ) (err : DecimalError) :
    DecimalT × DecimalError :=
  let newFront := newPoint - digitsInt
  let (buf, beg, stop, newPoint) :=
    if digPerDec1 ≤ newFront ∨ newFront < 0 then
      if 0 < newFront then
        -- move left
        let dShift := newFront.tdiv digPerDec1
        let i := roundUpInt (beg + 1) - 1 - dShift
        let barier := roundUpInt stop - 1 - dShift
        let buf := copyWordsLeft d.buf dShift.toNat i.toNat barier.toNat
        (zeroFrom buf (barier + 1).toNat (barier + dShift + 1).toNat, beg - dShift * digPerDec1,
          stop - dShift * digPerDec1, newPoint - dShift * digPerDec1)
      else
        -- move right
        let dShift := (1 - newFront).tdiv digPerDec1
        let i := roundUpInt stop - 1 + dShift
        let barier := roundUpInt (beg + 1) - 1 + dShift
        let buf := copyWordsRight d.buf dShift.toNat i.toNat barier.toNat
        (zeroFrom buf (barier - dShift).toNat barier.toNat, beg + dShift * digPerDec1,
          stop + dShift * digPerDec1, newPoint + dShift * digPerDec1)
    else (d.buf, beg, stop, newPoint)
  -- only one of the two gaps is there
  let beg := roundUpInt (beg + 1) - 1
  let stop := roundUpInt stop - 1
  let newPoint := if newPoint ≠ 0 then roundUpInt newPoint - 1 else 0
  let buf := if stop < newPoint then zeroFrom buf (stop + 1).toNat (newPoint + 1).toNat
    else zeroFrom buf newPoint.toNat beg.toNat
  ({ d with buf := buf, intg := digitsInt.toNat, frac := digitsFrac.toNat }, err)

/-- The shift of `decimal_shift` by less than a word, when `shift` is not a multiple of nine:
to the left when there is room in front of the digits (preferred for a left shift), else to the
right; it may leave the digits where they belong. -/
def alignDigits (d : DecimalT) (shift beg stop newPoint digitsInt digitsFrac : ℤ)
    (err : DecimalError) : DecimalT × DecimalError :=
  if shift.tmod digPerDec1 ≠ 0 then
    let (lMiniShift, rMiniShift, doLeft) :=
      if 0 < shift then
        let l := shift.tmod digPerDec1
        (l, digPerDec1 - l, decide (l ≤ beg))
      else
        let r := (-shift).tmod digPerDec1
        (digPerDec1 - r, r, !decide (r ≤ d.len * digPerDec1 - stop))
    let (buf, miniShift) :=
      if doLeft then (doMiniLeftShift d.buf lMiniShift.toNat beg stop, -lMiniShift)
      else (doMiniRightShift d.buf rMiniShift.toNat beg stop, rMiniShift)
    let newPoint := newPoint + miniShift
    if shift + miniShift = 0 ∧ newPoint - digitsInt < digPerDec1 then
      ({ d with buf := buf, intg := digitsInt.toNat, frac := digitsFrac.toNat }, err)
    else
      moveWords { d with buf := buf } (beg + miniShift) (stop + miniShift) newPoint digitsInt
        digitsFrac err
  else moveWords d beg stop newPoint digitsInt digitsFrac err

/-- `decimal_shift(dec, shift)`: the number times `10 ^ shift`. -/
def decimalShift (d : DecimalT) (shift : ℤ) : DecimalT × DecimalError :=
  if shift = 0 then (d, .ok)
  else
    let (beg, stop) := digitsBounds d
    if beg = stop then (decimalMakeZero d, .ok)
    else
      let point : ℤ := intWords d * digPerDec1
      let newPoint := point + shift
      let digitsInt := max (newPoint - beg) 0
      let digitsFrac := max (stop - newPoint) 0
      let newFracLen := roundUpInt digitsFrac
      let newLen := roundUpInt digitsInt + newFracLen
      if (d.len : ℤ) < newLen then
        let lack := newLen - d.len
        if newFracLen < lack then (d, .overflow)
        else
          -- cut the fraction to the words that fit, rounding half up
          let newFracLen := newFracLen - lack
          let diff := digitsFrac - newFracLen * digPerDec1
          let d := (decimalRoundInPlace d (stop - point - diff) .halfUp).1
          let stop := stop - diff
          if stop ≤ beg then (decimalMakeZero d, .truncated)
          else alignDigits d shift beg stop newPoint digitsInt (newFracLen * digPerDec1) .truncated
      else alignDigits d shift beg stop newPoint digitsInt digitsFrac .ok

/-! ### Where the code leaves the contract -/

/-- `999999999.999999999` in two words shifted one place right: the digits need a third word, so
the fraction is rounded half up to eight digits, which carries into a tenth integer digit; the
shift then moves the words by the bounds taken before the carry and returns `0.100000000` with
`E_DEC_TRUNCATED`, where the number times `10 ^ -1` rounded half up to the nine fraction digits
that fit is `100000000`, which two words hold. -/
theorem decimalShift_loses_carried_digit :
    WellFormed ⟨9, 9, 2, false, [999999999, 999999999]⟩ ∧
      decimalShift ⟨9, 9, 2, false, [999999999, 999999999]⟩ (-1) =
        (⟨8, 9, 2, false, [0, 100000000]⟩, .truncated) ∧
      value ⟨8, 9, 2, false, [0, 100000000]⟩ = 1 / 10 ∧
      roundToScale .halfUp 9
        (value ⟨9, 9, 2, false, [999999999, 999999999]⟩ * 10 ^ (-1 : ℤ)) = 100000000 ∧
      WellFormed ⟨9, 9, 2, false, [100000000, 0]⟩ ∧
      value ⟨9, 9, 2, false, [100000000, 0]⟩ = 100000000 :=
  ⟨by decide, by decide +kernel, by decide +kernel, by decide +kernel, by decide,
    by decide +kernel⟩

end MariaDB.Decimal
