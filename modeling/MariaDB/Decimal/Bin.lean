/-
The fixed-length binary format of `strings/decimal.c`: `decimal2bin`, `bin2decimal` and
`decimal_bin_size`.

For a precision `p` and scale `s` the format has `p - s` integer and `s` fraction digits:
every full group of nine digits in four bytes, the `(p - s) % 9` leading integer digits and
the `s % 9` trailing fraction digits in `dig2bytes` bytes, all big-endian. A negative
number has every byte complemented, and the first bit of the string is inverted, so that
`memcmp` orders the strings of one `(p, s)` as the numbers. Bytes are natural numbers below
`256`; the signed reads `mi_sint<n>korr` and the `int32` arithmetic of `bin2decimal` are
integers with explicit two's-complement wrapping.
-/

import MariaDB.Decimal.Basic

namespace MariaDB.Decimal

/-! ### Byte access -/

/-- A written byte of a number with mask `mask`: `x ^ mask` complements every bit of `x`
when the mask is `-1`, so each stored byte is the complement of the byte of `x`. -/
def maskByte (mask : Bool) (byte : ℕ) : ℕ := if mask then 255 - byte else byte

/-- `mi_int<width>store(to, x ^ mask)` for `0 ≤ x`: the low `width` bytes of `x ^ mask`,
most significant first. -/
def storeMasked (mask : Bool) (width x : ℕ) : List ℕ :=
  (Positional.bytes width x).map (maskByte mask)

/-- `orig_to[0]^= 0x80`. -/
def flipFirst : List ℕ → List ℕ
  | [] => []
  | byte :: rest => (byte ^^^ 0x80) :: rest

/-- `mi_sint<width>korr`: `width` bytes, most significant first, as a two's-complement
number. -/
def sintKorr (width : ℕ) (bytes : List ℕ) : ℤ :=
  let unsigned : ℤ := Positional.value 256 (bytes.take width)
  if 128 ≤ bytes.headD 0 then unsigned - 256 ^ width else unsigned

/-- `x ^ mask` on a `dec1` for the masks `0` and `-1`. -/
def xorMask (x : ℤ) (mask : Bool) : ℤ := if mask then -x - 1 else x

/-- An `int32` result of a multiplication, wrapped to its width. -/
def wrapInt32 (x : ℤ) : ℤ := (x + 2 ^ 31) % 2 ^ 32 - 2 ^ 31

/-- The conversion `(uint32)` of a `dec1`. -/
def toUInt32 (x : ℤ) : ℕ := (x % 2 ^ 32).toNat

/-- The conversion `(ulonglong)` of a `dec1`. -/
def toULongLong (x : ℤ) : ℕ := (x % 2 ^ 64).toNat

/-! ### `decimal2bin` -/

/-- `while (frac1x < lim && dig2bytes[frac1x] == i) frac1x++`: widen the last fraction group
to the most digits that still fit in its bytes. -/
def widenFrac (i lim : ℕ) : ℕ → ℕ → ℕ
  | 0, frac1x => frac1x
  | steps + 1, frac1x =>
    if frac1x < lim ∧ dig2bytes frac1x = i then widenFrac i lim steps (frac1x + 1) else frac1x

/-- The `frac1x` part of `decimal2bin`: the last fraction group in `dig2bytes frac1x` bytes,
taking as many leading digits of `word` as those bytes hold, up to the format's own last
group. -/
def lastFracGroup (mask : Bool) (frac0 frac0x frac1 frac1x word : ℕ) : List ℕ :=
  if frac1x ≠ 0 then
    let i := dig2bytes frac1x
    let lim := if frac1 < frac0 then digPerDec1 else frac0x
    storeMasked mask i (word / powers10 (digPerDec1 - widenFrac i lim digPerDec1 frac1x))
  else []

/-- `decimal2bin`: the bytes written and the return code. The words are read from the
position `remove_leading_zeroes` returns; a number with no digits reads the zero mask
itself. -/
def decimal2bin (d : DecimalT) (precision frac : ℕ) : List ℕ × DecimalError :=
  let intg := precision - frac
  let intg0 := intg / digPerDec1
  let frac0 := frac / digPerDec1
  let intg0x := intg - intg0 * digPerDec1
  let frac0x := frac - frac0 * digPerDec1
  let frac1 := d.frac / digPerDec1
  let frac1x := d.frac - frac1 * digPerDec1
  let isize0 := intg0 * 4 + dig2bytes intg0x
  let fsize0 := frac0 * 4 + dig2bytes frac0x
  let fsize1 := frac1 * 4 + dig2bytes frac1x
  let (fromIntg, words) := removeLeadingZeroes d
  let (mask, words) := if fromIntg + fsize1 = 0 then (false, [0]) else (d.sign, words)
  let intg1 := fromIntg / digPerDec1
  let intg1x := fromIntg - intg1 * digPerDec1
  let isize1 := intg1 * 4 + dig2bytes intg1x
  -- too many integer digits: step over the leading words that do not fit
  let overflow := decide (intg < fromIntg)
  let words := if overflow then
      words.drop ((intg1 + if 0 < intg1x then 1 else 0) - (intg0 + if 0 < intg0x then 1 else 0))
    else words
  let intg1' := if overflow then intg0 else intg1
  let intg1x := if overflow then intg0x else intg1x
  let intPad := if overflow then 0 else isize0 - isize1
  let error := if overflow then DecimalError.overflow else DecimalError.ok
  -- more fraction bytes than the format has: cut the fraction
  let (frac1, frac1x, fsize0', error) :=
    if fsize0 < fsize1 then (frac0, frac0x, fsize0, DecimalError.truncated)
    else if fsize1 < fsize0 ∧ frac1x ≠ 0 then
      if frac0 = frac1 then (frac1, frac0x, fsize1, error) else (frac1 + 1, 0, fsize0, error)
    else (frac1, frac1x, fsize0, error)
  let lead := if intg1x ≠ 0 then
      storeMasked mask (dig2bytes intg1x) (words.headD 0 % powers10 intg1x) else []
  let words := if intg1x ≠ 0 then words.drop 1 else words
  let whole := ((words.take (intg1' + frac1)).map (storeMasked mask 4)).flatten
  let words := words.drop (intg1' + frac1)
  let last := lastFracGroup mask frac0 frac0x frac1 frac1x (words.headD 0)
  let written := List.replicate intPad (maskByte mask 0) ++ lead ++ whole ++ last
  -- the fraction padding stops at the end of the buffer, `to_end`
  let fracPad := if fsize1 < fsize0' then
      List.replicate (min (fsize0' - fsize1) (isize0 + fsize0 - written.length)) (maskByte mask 0)
    else []
  (flipFirst (written ++ fracPad), error)

/-- `decimal_bin_size`. -/
def decimalBinSize (precision scale : ℕ) : ℕ :=
  let intg := precision - scale
  let intg0 := intg / digPerDec1
  let frac0 := scale / digPerDec1
  let intg0x := intg - intg0 * digPerDec1
  let frac0x := scale - frac0 * digPerDec1
  intg0 * 4 + dig2bytes intg0x + frac0 * 4 + dig2bytes frac0x

/-- `decimal_size`. -/
def decimalSize (precision scale : ℕ) : ℕ := roundUp (precision - scale) + roundUp scale

/-! ### `bin2decimal` -/

/-- A word of the integer part after its bytes are read: kept when a word is already kept
or it is non-zero, otherwise dropped with its digits, as `buf > to->buf || *buf != 0`
decides. -/
def keepIntWord (words : List ℕ) (intg digitsOfWord word : ℕ) : List ℕ × ℕ :=
  if words ≠ [] ∨ word ≠ 0 then (words ++ [word], intg) else (words, intg - digitsOfWord)

/-- The loop over the full integer words of `bin2decimal`, from byte `pos` on: `none` is the
jump to `err`. -/
def readIntWords (bytes : List ℕ) (mask : Bool) :
    ℕ → ℕ → List ℕ → ℕ → Option (List ℕ × ℕ × ℕ)
  | 0, pos, words, intg => some (words, intg, pos)
  | count + 1, pos, words, intg =>
    let word := xorMask (sintKorr 4 (bytes.drop pos)) mask
    if digMax < toUInt32 word then none
    else
      let (words, intg) := keepIntWord words intg digPerDec1 word.toNat
      readIntWords bytes mask count (pos + 4) words intg

/-- The loop over the full fraction words of `bin2decimal`. -/
def readFracWords (bytes : List ℕ) (mask : Bool) : ℕ → ℕ → List ℕ → Option (List ℕ × ℕ)
  | 0, pos, words => some (words, pos)
  | count + 1, pos, words =>
    let word := xorMask (sintKorr 4 (bytes.drop pos)) mask
    if digMax < toUInt32 word then none
    else readFracWords bytes mask count (pos + 4) (words ++ [word.toNat])

/-- `FIX_INTG_FRAC_ERROR(len, intg1, frac1, error)`: the word counts that fit in `len`
words, and the error. -/
def fixIntgFracError (len intg1 frac1 : ℕ) : ℕ × ℕ × DecimalError :=
  if len < intg1 + frac1 then
    if len < intg1 then (len, 0, .overflow) else (intg1, len - intg1, .truncated)
  else (intg1, frac1, .ok)

/-- The words and digit counts `bin2decimal` decodes, or `none` for the jump to `err`. -/
def bin2decimalWords (bytes : List ℕ) (len precision scale : ℕ) :
    Option (Bool × List ℕ × ℕ × ℕ × DecimalError) :=
  let intg := precision - scale
  let intg0 := intg / digPerDec1
  let frac0 := scale / digPerDec1
  let intg0x := intg - intg0 * digPerDec1
  let frac0x := scale - frac0 * digPerDec1
  let mask := !(decide (128 ≤ bytes.headD 0))
  -- the private copy with its first bit inverted back
  let bytes := flipFirst bytes
  let (intg1, frac1, error) := fixIntgFracError len
    (intg0 + if 0 < intg0x then 1 else 0) (frac0 + if 0 < frac0x then 1 else 0)
  let (pos, intg0, intg0x, frac0, frac0x) :=
    if error = .ok then (0, intg0, intg0x, frac0, frac0x)
    else if intg1 < intg0 + (if 0 < intg0x then 1 else 0) then
      (dig2bytes intg0x + 4 * (intg0 - intg1), intg1, 0, 0, 0)
    else (0, intg0, intg0x, frac1, 0)
  let intg := intg0 * digPerDec1 + intg0x
  let frac := frac0 * digPerDec1 + frac0x
  -- the leading integer group
  let leading : Option (List ℕ × ℕ × ℕ) :=
    if intg0x ≠ 0 then
      let i := dig2bytes intg0x
      let word := xorMask (sintKorr i (bytes.drop pos)) mask
      if powers10 (intg0x + 1) ≤ toULongLong word then none
      else some (keepIntWord [] intg intg0x word.toNat |>.1,
        keepIntWord [] intg intg0x word.toNat |>.2, pos + i)
    else some ([], intg, pos)
  leading.bind fun (words, intg, pos) =>
    (readIntWords bytes mask intg0 pos words intg).bind fun (words, intg, pos) =>
      (readFracWords bytes mask frac0 pos words).bind fun (words, pos) =>
        if frac0x ≠ 0 then
          let i := dig2bytes frac0x
          let word := wrapInt32
            (xorMask (sintKorr i (bytes.drop pos)) mask * powers10 (digPerDec1 - frac0x))
          if digMax < toUInt32 word then none
          else some (mask, words ++ [word.toNat], intg, frac, error)
        else some (mask, words, intg, frac, error)

/-- `bin2decimal`: the decoded number and the return code. A number with no digits left is
made a proper zero; a bad word makes the result zero with `E_DEC_BAD_NUM`. -/
def bin2decimal (bytes : List ℕ) (target : DecimalT) (precision scale : ℕ) :
    DecimalT × DecimalError :=
  match bin2decimalWords bytes target.len precision scale with
  | none => (decimalMakeZero target, .badNum)
  | some (mask, words, intg, frac, error) =>
    let result : DecimalT := { target with sign := mask, intg := intg, frac := frac, buf := words }
    if intg = 0 ∧ frac = 0 then (decimalMakeZero result, error) else (result, error)

/-- `0.0123` in the format of precision `5` and scale `3`. Its four fraction digits take
`dig2bytes[4] = 2` bytes, as many as the format's three, so no branch of the fraction sizing
cuts them: `decimal2bin` writes the group `0123` where the format holds three digits and
returns `E_DEC_OK`, and `bin2decimal` reads the group back as `123`, the number `0.123`. -/
theorem decimal2bin_round_trip_extra_digit :
    decimal2bin ⟨1, 4, 9, false, [0, 12300000]⟩ 5 3 = ([128, 0, 123], .ok) ∧
      bin2decimal [128, 0, 123] ⟨0, 0, 9, false, []⟩ 5 3 =
        (⟨0, 3, 9, false, [123000000]⟩, .ok) ∧
      value ⟨1, 4, 9, false, [0, 12300000]⟩ = 123 / 10000 ∧
      value ⟨0, 3, 9, false, [123000000]⟩ = 123 / 1000 := by
  have original : scaled ⟨1, 4, 9, false, [0, 12300000]⟩ = 12300000 := by decide
  have decoded : scaled ⟨0, 3, 9, false, [123000000]⟩ = 123000000 := by decide
  refine ⟨by decide, by decide, ?_, ?_⟩
  · rw [value, original]
    norm_num [fracWords, roundUp, digPerDec1, digBase]
  · rw [value, decoded]
    norm_num [fracWords, roundUp, digPerDec1, digBase]

end MariaDB.Decimal
