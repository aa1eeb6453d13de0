/-
Reading a decimal from text: `internal_str2dec` of `strings/decimal.c`, which `string2decimal`
calls with `fixed` unset.

The text is spaces, a sign, the integer digits, a point and the fraction digits, and an
exponent. The digits are stored in words of nine, the integer part from its last digit back
and the fraction from its first digit on. When they do not fit in `len` words,
`FIX_INTG_FRAC_ERROR` cuts the fraction words (`E_DEC_TRUNCATED`), or keeps the last integer
words (`E_DEC_OVERFLOW`). The exponent is read by `my_strtoll10` and applied by
`decimal_shift`, whose code then takes the place of the error so far.

The fraction is cut to the buffer before the exponent moves the point: a number that fits once
its exponent is applied may lose its digits to the cut, and the shift of what is left then
returns `E_DEC_OK`.
-/

import MariaDB.Decimal.Shift
import MariaDB.Strings.Strtoll10

namespace MariaDB.Decimal

open DecimalText (isDigit)
open Strings (myStrtoll10 skipSpaces myErrnoErange)

/-- `decimal_is_zero`: every word the number occupies is zero. -/
def decimalIsZero (d : DecimalT) : Bool := (usedWords d).all (· = 0)

/-- `while (s < end && my_isdigit(&my_charset_latin1, *s)) s++`. -/
def skipDigits (str : List ℕ) (i stop : ℕ) : ℕ :=
  if i < stop ∧ isDigit (str.getD i 0) = true then skipDigits str (i + 1) stop else i
termination_by stop - i

/-- `for ( ; s1 < iend && *s1 == '0'; s1++)`. -/
def skipZeroDigits (str : List ℕ) (i stop : ℕ) : ℕ :=
  if i < stop ∧ str.getD i 0 = 0x30 then skipZeroDigits str (i + 1) stop else i
termination_by stop - i

/-- The integer digits before position `s`, from the last one back:
`x+= (*--s - '0')*powers10[i]`, a word stored through `*--buf` every nine digits and the rest
after the loop. -/
def storeIntDigits (str : List ℕ) : ℕ → ℕ → List ℕ → ℕ → ℕ → ℕ → List ℕ
  | _, 0, buf, pos, x, i => if i ≠ 0 then buf.set (pos - 1) x else buf
  | s, intg + 1, buf, pos, x, i =>
    let x := x + (str.getD (s - 1) 0 - 0x30) * powers10 i
    if i + 1 = digPerDec1 then storeIntDigits str (s - 1) intg (buf.set (pos - 1) x) (pos - 1) 0 0
    else storeIntDigits str (s - 1) intg buf pos x (i + 1)

/-- The fraction digits after position `s1`, the point: `x= (*++s1 - '0') + x*10`, a word
stored through `*buf++` every nine digits and the rest, padded with zeros, after the loop. -/
def storeFracDigits (str : List ℕ) : ℕ → ℕ → List ℕ → ℕ → ℕ → ℕ → List ℕ
  | _, 0, buf, pos, x, i => if i ≠ 0 then buf.set pos (x * powers10 (digPerDec1 - i)) else buf
  | s1, frac + 1, buf, pos, x, i =>
    let x := (str.getD (s1 + 1) 0 - 0x30) + x * 10
    if i + 1 = digPerDec1 then storeFracDigits str (s1 + 1) frac (buf.set pos x) (pos + 1) 0 0
    else storeFracDigits str (s1 + 1) frac buf pos x (i + 1)

/-- `INT_MAX/2` and `INT_MIN/2`. -/
def intMaxHalf : ℤ := 1073741823

def intMinHalf : ℤ := -1073741824

/-- The exit of `internal_str2dec` that returns the number read: a zero loses its sign. -/
def finishStr2dec (d : DecimalT) (stop : ℕ) (error : DecimalError) :
    DecimalT × ℕ × DecimalError :=
  ({ d with sign := d.sign && !decimalIsZero d }, stop, error)

/-- `fatal_error:`: the number set to zero, with the error so far. -/
def fatalStr2dec (d : DecimalT) (stop : ℕ) (error : DecimalError) :
    DecimalT × ℕ × DecimalError :=
  (decimalMakeZero d, stop, error)

/-- The exponent after the digits, from position `endp`: read by `my_strtoll10` up to the end of
the text and applied by `decimal_shift`, an exponent past `INT_MAX/2` giving `E_DEC_OVERFLOW`
and one below `INT_MIN/2` a zero with `E_DEC_TRUNCATED`. -/
def applyExponent (str : List ℕ) (endp : ℕ) (d : DecimalT) (error : DecimalError) :
    DecimalT × ℕ × DecimalError :=
  if endp + 1 < str.length ∧ (str.getD endp 0 = 0x65 ∨ str.getD endp 0 = 0x45) then
    let (exponent, read, strError) := myStrtoll10 (str.drop (endp + 1)) true
    if read ≠ 0 then
      let stop := endp + 1 + read
      if 0 < strError then
        if strError = myErrnoErange then
          -- skip the digits past the twentieth
          let stop := skipDigits str stop str.length
          fatalStr2dec d stop
            (if exponent = -1 ∧ decimalIsZero d = false then .overflow else error)
        else fatalStr2dec d stop .badNum
      else if intMaxHalf < exponent ∨ (strError = 0 ∧ exponent < 0) then
        fatalStr2dec d stop (if decimalIsZero d = false then .overflow else error)
      else if exponent < intMinHalf ∧ error ≠ .overflow then fatalStr2dec d stop .truncated
      else if error ≠ .overflow then
        let (d, error) := decimalShift d exponent
        finishStr2dec d stop error
      else finishStr2dec d stop error
    else finishStr2dec d endp error
  else finishStr2dec d endp error

/-- `internal_str2dec(from, to, &end, fixed)` on the bytes of `str` up to `*end`: the decimal,
the position `*end` is left at, and the error. -/
def internalStr2dec (str : List ℕ) (toDecimal : DecimalT) (fixed : Bool) :
    DecimalT × ℕ × DecimalError :=
  let stop := str.length
  let s := skipSpaces str 0 stop
  if s = stop then fatalStr2dec toDecimal stop .badNum
  else
    let sign := decide (str.getD s 0 = 0x2D)
    let s := if sign ∨ str.getD s 0 = 0x2B then s + 1 else s
    let s1 := s
    let s := skipDigits str s stop
    -- trim the zeros in front of a long integer part, keeping one digit
    let s1 := if digPerDec1 < s - s1 ∧ str.getD s1 0 = 0x30 ∧ str.getD (s1 + 1) 0 = 0x30 then
        skipZeroDigits str s1 (s - 1)
      else s1
    let intg := s - s1
    let (frac, endp) := if s < stop ∧ str.getD s 0 = 0x2E then
        let endp := skipDigits str (s + 1) stop
        (endp - s - 1, endp)
      else (0, s)
    let toDecimal := { toDecimal with sign := sign }
    if frac + intg = 0 then fatalStr2dec toDecimal endp .badNum
    else
      -- the words that fit: the precision of `to` when `fixed`, else `len`
      let fitted : Option (ℕ × ℕ × ℕ × ℕ × DecimalError) :=
        if fixed then
          let (frac, error) := if toDecimal.frac < frac then (toDecimal.frac, DecimalError.truncated)
            else (frac, DecimalError.ok)
          let (intg, error) := if toDecimal.intg < intg then (toDecimal.intg, DecimalError.overflow)
            else (intg, error)
          if toDecimal.len < roundUp intg + roundUp frac then none
          else some (intg, frac, roundUp intg, roundUp frac, error)
        else
          let (intg1, frac1, error) := fixIntgFracError toDecimal.len (roundUp intg) (roundUp frac)
          let frac := if error ≠ .ok then frac1 * digPerDec1 else frac
          let intg := if error = .overflow then intg1 * digPerDec1 else intg
          some (intg, frac, intg1, frac1, error)
      match fitted with
      | none => fatalStr2dec toDecimal endp .oom
      | some (intg, frac, intg1, _, error) =>
        let buf := storeIntDigits str s intg toDecimal.buf intg1 0 0
        let buf := storeFracDigits str s frac buf intg1 0 0
        applyExponent str endp { toDecimal with intg := intg, frac := frac, buf := buf } error

/-- `string2decimal(from, to, &end)`. -/
def string2decimal (str : List ℕ) (toDecimal : DecimalT) : DecimalT × ℕ × DecimalError :=
  internalStr2dec str toDecimal false

/-! ### Where the code leaves the contract -/

/-- `0.0000000000000000001e19` into one word: the nineteen fraction digits do not fit, so the
fraction is cut to no word and the one is lost; the shift by nineteen of the zero left returns
`E_DEC_OK`. The number the text denotes is `1`, which one word holds. -/
theorem string2decimal_cut_before_exponent :
    string2decimal ([0x30, 0x2E] ++ List.replicate 18 0x30 ++ [0x31, 0x65, 0x31, 0x39])
        ⟨0, 0, 1, false, [0]⟩ = (⟨1, 0, 1, false, [0]⟩, 24, .ok) ∧
      value ⟨1, 0, 1, false, [0]⟩ = 0 ∧
      WellFormed ⟨1, 0, 1, false, [1]⟩ ∧ value ⟨1, 0, 1, false, [1]⟩ = 1 :=
  ⟨by decide +kernel, by decide +kernel, by decide, by decide +kernel⟩

end MariaDB.Decimal
