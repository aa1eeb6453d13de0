/-
The integer conversions of the 8-bit character sets in `ctype-simple.c`, where `long` has 64
bits.

The readers `my_strntol_8bit`, `my_strntoul_8bit`, `my_strntoll_8bit` and `my_strntoull_8bit`
share one scan: the spaces of the character set, a sign, and the digits of `base` (the letters of
either case from 10 on) read into an unsigned variable of 32 bits for the first two and of 64 for
the others. Before each digit the variable is tested against `cutoff` and `cutlim`; a digit that
would take it past its largest value sets `overflow` and is not added, and the digits after it
are read all the same. The readers differ in what they make of the sign and of an overflow: the
signed ones also refuse a magnitude past the limits of their type, the unsigned ones negate a
negative number as a signed 64-bit value.

`my_long10_to_str_8bit` and `my_longlong10_to_str_8bit` write a number in decimal, with a minus
sign when the radix and the number are negative, and `String::set_int` writes a `longlong` with
the second.

Reading a string comes down to its number text: the spaces, a sign, and the longest run of
digits. The loop adds the run's digits exactly as long as the value fits (`strntoLoop_of_fits`,
on `Positional.cutoff_iff`), so each reader returns the value of the run, or its limit with
`ERANGE` when the value does not fit its type (`signedOfText`, `unsignedOfText`). The writers' loops write `decimal` of the
magnitude, so every `longlong` and every `ulonglong` written by `String::set_int` reads back.
-/

import MariaDB.Strings.Strtoll10
import MariaDB.Library.Radix

namespace MariaDB.Strings

open DecimalText (digitByte decimal digitsValue isDigit padded decimal_of_lt decimal_eq_append
  length_decimal_le)
open Sql (toLonglong toULonglong longlongMin longlongMax ulonglongMax toLonglong_of_isLonglong
  toULonglong_toLonglong toULonglong_natCast)

/-! ### Reading -/

/-- The digit a byte stands for in the loops of the readers: `0` to `9`, then the letters of
either case from 10 on. -/
def digitValue (c : ℕ) : Option ℕ :=
  if 0x30 ≤ c ∧ c ≤ 0x39 then some (c - 0x30)
  else if 0x41 ≤ c ∧ c ≤ 0x5A then some (c - 0x41 + 10)
  else if 0x61 ≤ c ∧ c ≤ 0x7A then some (c - 0x61 + 10)
  else none

/-- The digit loop of the readers: the bytes after the digits, the variable `i` and
`overflow`. -/
def strntoLoop (base cutoff cutlim : ℕ) : List ℕ → ℕ → Bool → List ℕ × ℕ × Bool
  | [], i, overflow => ([], i, overflow)
  | c :: rest, i, overflow =>
    match digitValue c with
    | none => (c :: rest, i, overflow)
    | some d =>
      if d ≥ base then (c :: rest, i, overflow)
      else if i > cutoff ∨ (i = cutoff ∧ d > cutlim) then strntoLoop base cutoff cutlim rest i true
      else strntoLoop base cutoff cutlim rest (i * base + d) overflow

/-- What the readers share, with a variable of `width` bits: the spaces skipped, the sign and
the digit loop. The bytes after the digits, the variable, `overflow` and `negative`; `none` is
`noconv:`, a string of spaces or no digit after the sign. -/
def strntoScan (isSpace : ℕ → Bool) (width : ℕ) (str : List ℕ) (base : ℕ) :
    Option (List ℕ × ℕ × Bool × Bool) :=
  match str.dropWhile isSpace with
  | [] => none
  | c :: rest =>
    let (negative, save) :=
      if c = 0x2D then (true, rest) else if c = 0x2B then (false, rest) else (false, c :: rest)
    let (s, i, overflow) :=
      strntoLoop base ((2 ^ width - 1) / base) ((2 ^ width - 1) % base) save 0 false
    -- `s == save`: the loop read no digit
    if s.length = save.length then none else some (s, i, overflow, negative)

/-- What a reader returns, how many bytes it leaves `*endptr` past `nptr`, and `*err`. -/
structure Strnto (α : Type) where
  value : α
  endOffset : ℕ
  err : ℤ
  deriving DecidableEq, Repr

/-- The signed readers `my_strntol_8bit` and `my_strntoll_8bit`: a variable of `width` bits, and
the limits `low` and `high` of the type returned. -/
def myStrntoSigned8bit (width : ℕ) (low high : ℤ) (isSpace : ℕ → Bool) (str : List ℕ)
    (base : ℕ) : Strnto ℤ :=
  match strntoScan isSpace width str base with
  | none => ⟨0, 0, myErrnoEdom⟩
  | some (s, i, overflow, negative) =>
    -- `(uint32) INT_MIN32` and `(ulonglong) LONGLONG_MIN` are the magnitude of `low`
    let overflow := overflow || if negative then decide ((i : ℤ) > -low) else decide (i > high)
    if overflow then ⟨if negative then low else high, str.length - s.length, myErrnoErange⟩
    else ⟨if negative then toLonglong (-toLonglong i) else toLonglong i, str.length - s.length, 0⟩

/-- `my_strntol_8bit`: a 32-bit variable and the limits of a 32-bit `int`, returned as a
`long`. -/
def myStrntol8bit (isSpace : ℕ → Bool) (str : List ℕ) (base : ℕ) : Strnto ℤ :=
  myStrntoSigned8bit 32 (-2 ^ 31) (2 ^ 31 - 1) isSpace str base

/-- `my_strntoll_8bit`. -/
def myStrntoll8bit (isSpace : ℕ → Bool) (str : List ℕ) (base : ℕ) : Strnto ℤ :=
  myStrntoSigned8bit 64 longlongMin longlongMax isSpace str base

/-- The unsigned readers `my_strntoul_8bit` and `my_strntoull_8bit`: a variable of `width` bits,
its largest value on an overflow, and otherwise a negative number negated as a signed 64-bit
value. -/
def myStrntoUnsigned8bit (width : ℕ) (isSpace : ℕ → Bool) (str : List ℕ) (base : ℕ) :
    Strnto ℕ :=
  match strntoScan isSpace width str base with
  | none => ⟨0, 0, myErrnoEdom⟩
  | some (s, i, overflow, negative) =>
    if overflow then ⟨2 ^ width - 1, str.length - s.length, myErrnoErange⟩
    else
      ⟨toULonglong (if negative then -toLonglong i else toLonglong i), str.length - s.length, 0⟩

/-- `my_strntoul_8bit`: a 32-bit variable, returned as an `unsigned long`. -/
def myStrntoul8bit (isSpace : ℕ → Bool) (str : List ℕ) (base : ℕ) : Strnto ℕ :=
  myStrntoUnsigned8bit 32 isSpace str base

/-- `my_strntoull_8bit`. -/
def myStrntoull8bit (isSpace : ℕ → Bool) (str : List ℕ) (base : ℕ) : Strnto ℕ :=
  myStrntoUnsigned8bit 64 isSpace str base

/-! ### Writing -/

/-- `LONG_MAX`. -/
def longMax : ℕ := 2 ^ 63 - 1

/-- The `long` loop of the writers: the decimal digits of `val`, written backwards in front of
the ones already in the buffer. -/
def longDigits (val : ℕ) (p : List ℕ) : List ℕ :=
  if stop : val = 0 then p else longDigits (val / 10) (digitByte (val % 10) :: p)
termination_by val
decreasing_by omega

/-- The `ulonglong` loop of `my_longlong10_to_str_8bit`, while the value does not fit a `long`:
what is left of the value and the buffer. -/
def ulonglongDigits (uval : ℕ) (p : List ℕ) : ℕ × List ℕ :=
  if large : uval > longMax then ulonglongDigits (uval / 10) (digitByte (uval % 10) :: p)
  else (uval, p)
termination_by uval
decreasing_by omega

/-- `my_longlong10_to_str_8bit`: the bytes written to `dst` and the length returned, for a
buffer of `len` bytes. -/
def myLonglong10ToStr8bit (len : ℕ) (radix val : ℤ) : List ℕ × ℕ :=
  let sign := decide (radix < 0 ∧ val < 0)
  -- `uval= (ulonglong)0 - uval`, exact also for `LONGLONG_MIN`
  let uval := if sign then toULonglong (-val) else toULonglong val
  let len := if sign then (len + (2 ^ 64 - 1)) % 2 ^ 64 else len
  let (digits, len) :=
    if uval = 0 then ([0x30], 1)
    else
      let (rest, p) := ulonglongDigits uval []
      let digits := longDigits rest p
      (digits, min len digits.length)
  ((if sign then [0x2D] else []) ++ digits.take len, len + if sign then 1 else 0)

/-- `my_long10_to_str_8bit`: the last digit is written before the loop, so that `0` is
written too. -/
def myLong10ToStr8bit (len : ℕ) (radix val : ℤ) : List ℕ × ℕ :=
  let sign := decide (radix < 0 ∧ val < 0)
  let uval := if sign then toULonglong (-val) else toULonglong val
  let len := if sign then (len + (2 ^ 64 - 1)) % 2 ^ 64 else len
  let digits := longDigits (uval / 10) [digitByte (uval % 10)]
  let len := min len digits.length
  ((if sign then [0x2D] else []) ++ digits.take len, len + if sign then 1 else 0)

/-- `String::set_int` in a character set of single bytes (`mbmaxlen` is 1): the text of `num`,
signed unless `unsigned_flag`, written into `20 * mbmaxlen + 1` bytes. -/
def setInt (num : ℤ) (unsignedFlag : Bool) : List ℕ :=
  let l := 20 * 1 + 1
  let base : ℤ := if unsignedFlag then 10 else -10
  let (bytes, strLength) := myLonglong10ToStr8bit l base num
  bytes.take strLength

/-! ### The number at the front of a string -/

/-- Whether a byte is a digit of `base` for the readers. -/
def isDigitOf (base c : ℕ) : Bool := (digitValue c).any (· < base)

/-- The value the digits of `run` add to `i`, most significant first. -/
def runValue (base i : ℕ) (run : List ℕ) : ℕ :=
  run.foldl (fun v c => v * base + (digitValue c).getD 0) i

/-- The number text at the front of a string as the readers see it: whether a minus sign
follows the spaces, the longest run of digits of `base` after the sign, and the bytes after the
run. -/
structure NumberText where
  negative : Bool
  run : List ℕ
  rest : List ℕ

/-- The number text of `str`. -/
def numberText (isSpace : ℕ → Bool) (base : ℕ) (str : List ℕ) : NumberText :=
  let (negative, body) :=
    match str.dropWhile isSpace with
    | c :: rest =>
      if c = 0x2D then (true, rest) else if c = 0x2B then (false, rest) else (false, c :: rest)
    | [] => (false, [])
  ⟨negative, body.takeWhile (isDigitOf base), body.dropWhile (isDigitOf base)⟩

/-- What the signed readers are for: the run's value with its sign, or the nearer of the limits
`low` and `high` with `ERANGE` when that value lies past them; `*endptr` after the run, or at
`nptr` with `EDOM` when there is no run. -/
def signedOfText (low high : ℤ) (str : List ℕ) (base : ℕ) (text : NumberText) : Strnto ℤ :=
  if text.run = [] then ⟨0, 0, myErrnoEdom⟩
  else
    let value : ℤ :=
      if text.negative then -(runValue base 0 text.run : ℤ) else runValue base 0 text.run
    if value < low then ⟨low, str.length - text.rest.length, myErrnoErange⟩
    else if high < value then ⟨high, str.length - text.rest.length, myErrnoErange⟩
    else ⟨value, str.length - text.rest.length, 0⟩

/-- What the unsigned readers are for: the run's value, negated modulo `2 ^ 64` after a minus
sign, or `limit` with `ERANGE` when the value is past `limit`. -/
def unsignedOfText (limit : ℕ) (str : List ℕ) (base : ℕ) (text : NumberText) : Strnto ℕ :=
  if text.run = [] then ⟨0, 0, myErrnoEdom⟩
  else if limit < runValue base 0 text.run then
    ⟨limit, str.length - text.rest.length, myErrnoErange⟩
  else
    ⟨if text.negative then (2 ^ 64 - runValue base 0 text.run) % 2 ^ 64
      else runValue base 0 text.run, str.length - text.rest.length, 0⟩

/-! ### The digit loop -/

section Loop

variable {base cutoff cutlim : ℕ}

theorem digitValue_of_isDigitOf {c : ℕ} (digit : isDigitOf base c = true) :
    ∃ d, digitValue c = some d ∧ d < base := by
  unfold isDigitOf at digit
  cases value : digitValue c with
  | none => simp [value] at digit
  | some d => exact ⟨d, rfl, by simpa [value] using digit⟩

@[simp] theorem runValue_nil (i : ℕ) : runValue base i [] = i := rfl

theorem runValue_cons {c d : ℕ} (value : digitValue c = some d) (i : ℕ) (run : List ℕ) :
    runValue base i (c :: run) = runValue base (i * base + d) run := by
  simp [runValue, value]

/-- The loop stops at a byte that is not a digit of `base`. -/
theorem strntoLoop_stop {rest : List ℕ} (stop : ∀ c ∈ rest.head?, isDigitOf base c = false)
    (i : ℕ) (overflow : Bool) : strntoLoop base cutoff cutlim rest i overflow = (rest, i, overflow) := by
  cases rest with
  | nil => rfl
  | cons c rest =>
    have notDigit := stop c rfl
    unfold isDigitOf at notDigit
    unfold strntoLoop
    cases value : digitValue c with
    | none => rfl
    | some d =>
      simp only [value, Option.any_some, decide_eq_false_iff_not, not_lt] at notDigit
      simp [notDigit]

/-- The loop reads the whole run of digits, whatever it makes of them. -/
theorem strntoLoop_fst {run rest : List ℕ} (digits : ∀ c ∈ run, isDigitOf base c = true)
    (stop : ∀ c ∈ rest.head?, isDigitOf base c = false) (i : ℕ) (overflow : Bool) :
    (strntoLoop base cutoff cutlim (run ++ rest) i overflow).1 = rest := by
  induction run generalizing i overflow with
  | nil => rw [List.nil_append, strntoLoop_stop stop]
  | cons c run inductionHypothesis =>
    obtain ⟨d, value, small⟩ := digitValue_of_isDigitOf (digits c List.mem_cons_self)
    have rest' := fun i overflow =>
      inductionHypothesis (fun c member => digits c (List.mem_cons_of_mem _ member)) i overflow
    rw [List.cons_append, strntoLoop, value]
    simp only [ge_iff_le, not_le.mpr small, if_false]
    split
    · exact rest' _ _
    · exact rest' _ _

/-- Once set, `overflow` stays set. -/
theorem strntoLoop_sticky (str : List ℕ) (i : ℕ) :
    (strntoLoop base cutoff cutlim str i true).2.2 = true := by
  induction str generalizing i with
  | nil => rfl
  | cons c rest inductionHypothesis =>
    unfold strntoLoop
    cases digitValue c with
    | none => rfl
    | some d =>
      simp only
      split
      · rfl
      · split
        · exact inductionHypothesis i
        · exact inductionHypothesis _

/-- A run whose value fits: the loop adds every digit and sets no overflow. -/
theorem strntoLoop_of_fits {limit : ℕ} (positive : 0 < base) {run rest : List ℕ}
    (digits : ∀ c ∈ run, isDigitOf base c = true)
    (stop : ∀ c ∈ rest.head?, isDigitOf base c = false) {i : ℕ} (overflow : Bool)
    (fits : runValue base i run ≤ limit) :
    strntoLoop base (limit / base) (limit % base) (run ++ rest) i overflow =
      (rest, runValue base i run, overflow) := by
  induction run generalizing i with
  | nil => rw [List.nil_append, strntoLoop_stop stop, runValue_nil]
  | cons c run inductionHypothesis =>
    obtain ⟨d, value, small⟩ := digitValue_of_isDigitOf (digits c List.mem_cons_self)
    rw [runValue_cons value] at fits ⊢
    -- every value on the way is at most the value of the whole run
    have below : i * base + d ≤ limit :=
      (Positional.le_foldl_mul_add positive _ run _).trans fits
    have noCutoff := mt (Positional.cutoff_iff positive small).mp (not_lt.mpr below)
    rw [List.cons_append, strntoLoop, value]
    simp only [ge_iff_le, not_le.mpr small, if_false, if_neg noCutoff]
    exact inductionHypothesis (fun c member => digits c (List.mem_cons_of_mem _ member)) fits

/-- A run whose value does not fit: the loop sets `overflow`. -/
theorem strntoLoop_of_exceeds {limit : ℕ} (positive : 0 < base) {run rest : List ℕ}
    (digits : ∀ c ∈ run, isDigitOf base c = true) {i : ℕ} (fits : i ≤ limit) (overflow : Bool)
    (exceeds : limit < runValue base i run) :
    (strntoLoop base (limit / base) (limit % base) (run ++ rest) i overflow).2.2 = true := by
  induction run generalizing i overflow with
  | nil => exact absurd exceeds (not_lt.mpr fits)
  | cons c run inductionHypothesis =>
    obtain ⟨d, value, small⟩ := digitValue_of_isDigitOf (digits c List.mem_cons_self)
    rw [runValue_cons value] at exceeds
    rw [List.cons_append, strntoLoop, value]
    simp only [ge_iff_le, not_le.mpr small, if_false]
    by_cases past : limit < i * base + d
    · -- the digit is refused and `overflow` is set for good
      rw [if_pos ((Positional.cutoff_iff positive small).mpr past)]
      exact strntoLoop_sticky _ _
    · rw [if_neg (mt (Positional.cutoff_iff positive small).mp past)]
      exact inductionHypothesis (fun c member => digits c (List.mem_cons_of_mem _ member))
        (not_lt.mp past) overflow exceeds

end Loop

/-! ### The scan -/

section Scan

variable (isSpace : ℕ → Bool) {base : ℕ} (str : List ℕ)

theorem stop_dropWhile (p : ℕ → Bool) (l : List ℕ) :
    ∀ c ∈ (l.dropWhile p).head?, p c = false := by
  intro c first
  have stop := List.head?_dropWhile_not p l
  rw [show (l.dropWhile p).head? = some c from first] at stop
  exact stop

theorem numberText_digits : ∀ c ∈ (numberText isSpace base str).run, isDigitOf base c = true :=
  fun _ member => List.mem_takeWhile_imp member

theorem numberText_stop :
    ∀ c ∈ (numberText isSpace base str).rest.head?, isDigitOf base c = false :=
  stop_dropWhile _ _

/-- After the sign: the loop reads nothing exactly when the run is empty, and it leaves the bytes
after the run and sets `overflow` exactly when the run's value does not fit `width` bits. -/
theorem strntoScan_body (width : ℕ) (positive : 0 < base) (negative : Bool) (body : List ℕ) :
    (if (strntoLoop base ((2 ^ width - 1) / base) ((2 ^ width - 1) % base) body 0 false).1.length =
        body.length then none
      else some ((strntoLoop base ((2 ^ width - 1) / base) ((2 ^ width - 1) % base) body 0 false).1,
        (strntoLoop base ((2 ^ width - 1) / base) ((2 ^ width - 1) % base) body 0 false).2.1,
        (strntoLoop base ((2 ^ width - 1) / base) ((2 ^ width - 1) % base) body 0 false).2.2,
        negative)) =
      if body.takeWhile (isDigitOf base) = [] then none
      else some (body.dropWhile (isDigitOf base),
        (strntoLoop base ((2 ^ width - 1) / base) ((2 ^ width - 1) % base)
          (body.takeWhile (isDigitOf base) ++ body.dropWhile (isDigitOf base)) 0 false).2.1,
        decide (2 ^ width - 1 < runValue base 0 (body.takeWhile (isDigitOf base))), negative) := by
  have digits : ∀ c ∈ body.takeWhile (isDigitOf base), isDigitOf base c = true :=
    fun _ member => List.mem_takeWhile_imp member
  have stop := stop_dropWhile (isDigitOf base) body
  conv => lhs; rw [← List.takeWhile_append_dropWhile (p := isDigitOf base) (l := body)]
  rw [strntoLoop_fst digits stop 0 false]
  by_cases empty : body.takeWhile (isDigitOf base) = []
  · simp [empty]
  · have read : (body.dropWhile (isDigitOf base)).length ≠
        (body.takeWhile (isDigitOf base) ++ body.dropWhile (isDigitOf base)).length := by
      have := List.length_pos_iff.mpr empty
      rw [List.length_append]
      omega
    -- `overflow` is set exactly when the run's value passes the limit
    have overflow : (strntoLoop base ((2 ^ width - 1) / base) ((2 ^ width - 1) % base)
        (body.takeWhile (isDigitOf base) ++ body.dropWhile (isDigitOf base)) 0 false).2.2 =
        decide (2 ^ width - 1 < runValue base 0 (body.takeWhile (isDigitOf base))) := by
      by_cases fits : runValue base 0 (body.takeWhile (isDigitOf base)) ≤ 2 ^ width - 1
      · rw [strntoLoop_of_fits positive digits stop false fits]
        simp [fits]
      · rw [strntoLoop_of_exceeds positive digits (Nat.zero_le _) false (not_le.mp fits)]
        simp [not_le.mp fits]
    rw [if_neg read, if_neg empty, overflow]

/-- The scan reads the number text: nothing without a run of digits, and otherwise the bytes
after the run, what the loop holds, whether the run's value does not fit `width` bits, and the
sign. -/
theorem strntoScan_eq (width : ℕ) (positive : 0 < base) :
    strntoScan isSpace width str base =
      if (numberText isSpace base str).run = [] then none
      else some ((numberText isSpace base str).rest,
        (strntoLoop base ((2 ^ width - 1) / base) ((2 ^ width - 1) % base)
          ((numberText isSpace base str).run ++ (numberText isSpace base str).rest) 0 false).2.1,
        decide (2 ^ width - 1 < runValue base 0 (numberText isSpace base str).run),
        (numberText isSpace base str).negative) := by
  unfold strntoScan numberText
  cases str.dropWhile isSpace with
  | nil => rfl
  | cons c rest => exact strntoScan_body width positive _ _

theorem strntoLoop_numberText (width : ℕ) (positive : 0 < base)
    (fits : runValue base 0 (numberText isSpace base str).run ≤ 2 ^ width - 1) :
    (strntoLoop base ((2 ^ width - 1) / base) ((2 ^ width - 1) % base)
      ((numberText isSpace base str).run ++ (numberText isSpace base str).rest) 0 false).2.1 =
      runValue base 0 (numberText isSpace base str).run := by
  rw [strntoLoop_of_fits positive (numberText_digits isSpace str) (numberText_stop isSpace str)
    false fits]

end Scan

/-! ### The readers -/

section Readers

variable (isSpace : ℕ → Bool) {base : ℕ} (str : List ℕ)

theorem toLonglong_neg_toLonglong {v : ℕ} (small : v ≤ 2 ^ 63) :
    toLonglong (-toLonglong v) = -v := by
  unfold toLonglong
  omega

theorem toULonglong_neg_toLonglong {v : ℕ} (small : v < 2 ^ 64) :
    toULonglong (-toLonglong v) = (2 ^ 64 - v) % 2 ^ 64 := by
  unfold toULonglong toLonglong
  omega

theorem myStrntoSigned8bit_eq {width : ℕ} (wide : 0 < width) (narrow : width ≤ 64)
    (positive : 0 < base) :
    myStrntoSigned8bit width (-2 ^ (width - 1)) (2 ^ (width - 1) - 1) isSpace str base =
      signedOfText (-2 ^ (width - 1)) (2 ^ (width - 1) - 1) str base
        (numberText isSpace base str) := by
  have loop := strntoLoop_numberText isSpace str width positive
  unfold myStrntoSigned8bit signedOfText
  rw [strntoScan_eq isSpace str width positive]
  generalize numberText isSpace base str = text at loop ⊢
  obtain ⟨negative, run, rest⟩ := text
  by_cases empty : run = []
  · simp [empty]
  simp only [if_neg empty]
  simp only at loop
  generalize runValue base 0 run = v at loop ⊢
  generalize (strntoLoop base _ _ (run ++ rest) 0 false).2.1 = i at loop ⊢
  -- the limits are `±2 ^ (width - 1)` and the variable holds up to `2 * 2 ^ (width - 1) - 1`
  have double : 2 ^ width = 2 * 2 ^ (width - 1) := by
    rw [← pow_succ']
    congr 1
    omega
  have bound : 2 ^ (width - 1) ≤ 2 ^ 63 := Nat.pow_le_pow_right (by norm_num) (by omega)
  have one : 1 ≤ 2 ^ (width - 1) := Nat.one_le_two_pow
  rw [show (2 : ℤ) ^ (width - 1) = ((2 ^ (width - 1) : ℕ) : ℤ) by push_cast; rfl]
  rw [double] at loop ⊢
  generalize 2 ^ (width - 1) = half at bound one loop ⊢
  by_cases fits : v ≤ 2 * half - 1
  · obtain rfl := loop fits
    cases negative <;> simp only [Bool.false_eq_true, ↓reduceIte, neg_neg]
    · have notLow : ¬(i : ℤ) < -half := by omega
      by_cases past : (half : ℤ) - 1 < i
      · rw [if_pos (by simp; omega), if_neg notLow, if_pos past]
      · rw [if_neg (by simp; omega), if_neg notLow, if_neg past,
          toLonglong_of_isLonglong (x := i) ⟨by omega, by omega⟩]
    · by_cases past : -(i : ℤ) < -half
      · rw [if_pos (by simp; omega), if_pos past]
      · have notHigh : ¬(half : ℤ) - 1 < -i := by omega
        rw [if_neg (by simp; omega), if_neg past, if_neg notHigh,
          toLonglong_neg_toLonglong (v := i) (by omega)]
  -- past the variable: the scan's own overflow, and the value lies past the limit of its sign
  · cases negative <;> simp only [Bool.false_eq_true, ↓reduceIte, neg_neg]
    · rw [if_pos (by simp; omega), if_neg (by omega), if_pos (by omega)]
    · rw [if_pos (by simp; omega), if_pos (by omega)]

theorem myStrntoUnsigned8bit_eq {width : ℕ} (narrow : width ≤ 64) (positive : 0 < base) :
    myStrntoUnsigned8bit width isSpace str base =
      unsignedOfText (2 ^ width - 1) str base (numberText isSpace base str) := by
  have loop := strntoLoop_numberText isSpace str width positive
  unfold myStrntoUnsigned8bit unsignedOfText
  rw [strntoScan_eq isSpace str width positive]
  generalize numberText isSpace base str = text at loop ⊢
  obtain ⟨negative, run, rest⟩ := text
  by_cases empty : run = []
  · simp [empty]
  simp only [if_neg empty]
  simp only at loop
  generalize runValue base 0 run = v at loop ⊢
  generalize (strntoLoop base _ _ (run ++ rest) 0 false).2.1 = i at loop ⊢
  have bound : 2 ^ width ≤ 2 ^ 64 := Nat.pow_le_pow_right (by norm_num) narrow
  by_cases fits : v ≤ 2 ^ width - 1
  · obtain rfl := loop fits
    have small : i < 2 ^ 64 := by omega
    have notPast : ¬2 ^ width - 1 < i := by omega
    cases negative <;> simp only [notPast, decide_false, Bool.false_eq_true, ↓reduceIte]
    · rw [toULonglong_toLonglong, toULonglong_natCast small]
    · rw [toULonglong_neg_toLonglong small]
  · have past : 2 ^ width - 1 < v := by omega
    simp only [past, decide_true, ↓reduceIte]

/-- The signed readers return the value of the number text with its sign, or the limit of their
type on the side the value passes with `ERANGE`; `my_strntol_8bit` has the limits of a 32-bit
`int`, `my_strntoll_8bit` those of a `longlong`. -/
theorem myStrntol8bit_myStrntoll8bit_eq (positive : 0 < base) :
    myStrntol8bit isSpace str base =
        signedOfText (-2 ^ 31) (2 ^ 31 - 1) str base (numberText isSpace base str) ∧
      myStrntoll8bit isSpace str base =
        signedOfText longlongMin longlongMax str base (numberText isSpace base str) :=
  ⟨myStrntoSigned8bit_eq isSpace str (by norm_num : 0 < 32) (by norm_num) positive,
    myStrntoSigned8bit_eq isSpace str (by norm_num : 0 < 64) (by norm_num) positive⟩

theorem myStrntol8bit_myStrntoll8bit_eq_hex :
    myStrntol8bit (· == 0x20) [0x20, 0x2D, 0x46, 0x66, 0x5A] 16 =
        signedOfText (-2 ^ 31) (2 ^ 31 - 1) [0x20, 0x2D, 0x46, 0x66, 0x5A] 16
          (numberText (· == 0x20) 16 [0x20, 0x2D, 0x46, 0x66, 0x5A]) ∧
      myStrntoll8bit (· == 0x20) [0x20, 0x2D, 0x46, 0x66, 0x5A] 16 =
        signedOfText longlongMin longlongMax [0x20, 0x2D, 0x46, 0x66, 0x5A] 16
          (numberText (· == 0x20) 16 [0x20, 0x2D, 0x46, 0x66, 0x5A]) :=
  myStrntol8bit_myStrntoll8bit_eq (· == 0x20) [0x20, 0x2D, 0x46, 0x66, 0x5A] (by decide)

/-- The unsigned readers return the value of the number text, negated modulo `2 ^ 64` after a
minus sign, or the largest value of their variable with `ERANGE` when the value passes it: for
`my_strntoul_8bit` that is `2 ^ 32 - 1`, below what it returns for a small negative number. -/
theorem myStrntoul8bit_myStrntoull8bit_eq (positive : 0 < base) :
    myStrntoul8bit isSpace str base =
        unsignedOfText (2 ^ 32 - 1) str base (numberText isSpace base str) ∧
      myStrntoull8bit isSpace str base =
        unsignedOfText ulonglongMax str base (numberText isSpace base str) :=
  ⟨myStrntoUnsigned8bit_eq isSpace str (by norm_num : 32 ≤ 64) positive,
    myStrntoUnsigned8bit_eq isSpace str (le_refl 64) positive⟩

theorem myStrntoul8bit_myStrntoull8bit_eq_minus_one :
    myStrntoul8bit (· == 0x20) [0x2D, 0x31] 10 =
        unsignedOfText (2 ^ 32 - 1) [0x2D, 0x31] 10 (numberText (· == 0x20) 10 [0x2D, 0x31]) ∧
      myStrntoull8bit (· == 0x20) [0x2D, 0x31] 10 =
        unsignedOfText ulonglongMax [0x2D, 0x31] 10 (numberText (· == 0x20) 10 [0x2D, 0x31]) :=
  myStrntoul8bit_myStrntoull8bit_eq (· == 0x20) [0x2D, 0x31] (by decide)

end Readers


/-! ### The writers -/

section Writers

/-- The `long` loop writes the digits of a nonzero value in front of the buffer. -/
theorem longDigits_eq (val : ℕ) (p : List ℕ) :
    longDigits val p = (if val = 0 then [] else decimal val) ++ p := by
  induction val using Nat.strong_induction_on generalizing p with
  | h val inductionHypothesis =>
    rw [longDigits]
    split
    · simp
    · rw [inductionHypothesis (val / 10) (by omega)]
      -- the digits of `val / 10`, if any, then the last digit
      by_cases small : val < 10
      · rw [Nat.div_eq_of_lt small, if_pos rfl, decimal_of_lt small, Nat.mod_eq_of_lt small]
        rfl
      · rw [if_neg (by omega), decimal_eq_append (n := val) (by omega), List.append_assoc]
        rfl

/-- The `ulonglong` loop writes the low digits, and the `long` loop goes on from where it
stops. -/
theorem longDigits_ulonglongDigits (uval : ℕ) (p : List ℕ) :
    longDigits (ulonglongDigits uval p).1 (ulonglongDigits uval p).2 = longDigits uval p := by
  induction uval using Nat.strong_induction_on generalizing p with
  | h uval inductionHypothesis =>
    rw [ulonglongDigits]
    split
    · rename_i large
      unfold longMax at large
      rw [inductionHypothesis (uval / 10) (by omega)]
      conv_rhs => rw [longDigits, dif_neg (by omega)]
    · rfl

/-- With room for them in the buffer, `my_longlong10_to_str_8bit` writes the sign and the
decimal digits of the magnitude, `0` included. -/
theorem myLonglong10ToStr8bit_eq {len : ℕ} {radix val : ℤ} {negative : Bool} {uval : ℕ}
    (sign : decide (radix < 0 ∧ val < 0) = negative)
    (magnitude : (if negative then toULonglong (-val) else toULonglong val) = uval)
    (room : (decimal uval).length + (if negative then 1 else 0) ≤ len) (short : len ≤ 2 ^ 64) :
    myLonglong10ToStr8bit len radix val =
      ((if negative then [0x2D] else []) ++ decimal uval,
        (decimal uval).length + if negative then 1 else 0) := by
  unfold myLonglong10ToStr8bit
  simp only [sign, magnitude]
  -- `len--` for the sign, in `size_t`
  have shorter : (if negative then (len + (2 ^ 64 - 1)) % 2 ^ 64 else len) =
      len - if negative then 1 else 0 := by
    cases negative <;> simp only [Bool.false_eq_true, ↓reduceIte] at room ⊢ <;> omega
  rw [shorter]
  by_cases zero : uval = 0
  · subst zero
    rw [if_pos rfl, decimal_of_lt (by norm_num)]
    rfl
  · rw [if_neg zero, longDigits_ulonglongDigits, longDigits_eq, if_neg zero, List.append_nil]
    dsimp only
    rw [min_eq_right (by omega), List.take_of_length_le (by omega)]

/-- `String::set_int` of a `longlong`: a minus sign for a negative number, then the digits of its
magnitude. -/
theorem setInt_signed {num : ℤ} (range : Sql.IsLonglong num) :
    setInt num false = (if decide (num < 0) then [0x2D] else []) ++ decimal num.natAbs := by
  unfold Sql.IsLonglong at range
  have digits := length_decimal_le (n := num.natAbs) (w := 19) (by omega) (by norm_num)
  have magnitude :
      (if decide (num < 0) then toULonglong (-num) else toULonglong num) = num.natAbs := by
    unfold toULonglong
    by_cases negative : num < 0 <;> simp only [negative, decide_true, decide_false,
      Bool.false_eq_true, ↓reduceIte] <;> omega
  have room : (decimal num.natAbs).length + (if decide (num < 0) then 1 else 0) ≤ 20 * 1 + 1 := by
    split <;> omega
  unfold setInt
  dsimp only [Bool.false_eq_true, ↓reduceIte]
  rw [myLonglong10ToStr8bit_eq (by simp) magnitude room (by norm_num)]
  exact List.take_of_length_le (by by_cases negative : num < 0 <;> simp [negative])

/-- `String::set_int` of a `ulonglong`, held in a `longlong`: the digits of the `ulonglong`. -/
theorem setInt_unsigned (num : ℤ) : setInt num true = decimal (toULonglong num) := by
  have digits := length_decimal_le (n := toULonglong num) (w := 20)
    (lt_trans (Sql.toULonglong_lt num) (by norm_num)) (by norm_num)
  have magnitude :
      (if false then toULonglong (-num) else toULonglong num) = toULonglong num := rfl
  have room : (decimal (toULonglong num)).length + (if false then 1 else 0) ≤ 20 * 1 + 1 := by
    simp only [Bool.false_eq_true, ↓reduceIte]
    omega
  unfold setInt
  dsimp only [↓reduceIte]
  rw [myLonglong10ToStr8bit_eq (by simp) magnitude room (by norm_num)]
  exact List.take_of_length_le (by simp)

end Writers

/-! ### Reading what was written -/

section ReadBack

variable (isSpace : ℕ → Bool)

theorem isDigitOf_of_isDigit {c : ℕ} (digit : isDigit c = true) : isDigitOf 10 c = true := by
  unfold isDigit at digit
  simp only [Bool.and_eq_true, decide_eq_true_eq] at digit
  simp [isDigitOf, digitValue, digit]
  omega

/-- Over decimal digits the readers' loop adds what `digitsValue` adds. -/
theorem runValue_of_isDigit {run : List ℕ} (digits : ∀ c ∈ run, isDigit c = true) (i : ℕ) :
    runValue 10 i run = digitsValue i run := by
  induction run generalizing i with
  | nil => rfl
  | cons c run inductionHypothesis =>
    have digit := digits c List.mem_cons_self
    unfold isDigit at digit
    simp only [Bool.and_eq_true, decide_eq_true_eq] at digit
    have value : digitValue c = some (c - 0x30) := by simp [digitValue, digit]
    rw [runValue_cons value,
      inductionHypothesis (fun c member => digits c (List.mem_cons_of_mem _ member))]
    rfl

theorem runValue_decimal (n : ℕ) : runValue 10 0 (decimal n) = n := by
  rw [runValue_of_isDigit
    (fun c (member : c ∈ decimal n) => DecimalText.isDigit_of_mem_padded member),
    DecimalText.digitsValue_decimal]

theorem decimal_ne_nil (n : ℕ) : decimal n ≠ [] :=
  List.ne_nil_of_length_pos (by simp)

/-- The number text of a sign and a numeral, where neither the sign nor a digit is a space. -/
theorem numberText_decimal
    (noSpace : isSpace 0x2D = false ∧ ∀ d < 10, isSpace (digitByte d) = false)
    (negative : Bool) (n : ℕ) :
    numberText isSpace 10 ((if negative then [0x2D] else []) ++ decimal n) =
      ⟨negative, decimal n, []⟩ := by
  have digits : ∀ c ∈ decimal n, isDigit c = true :=
    fun _ member => DecimalText.isDigit_of_mem_padded member
  have run : (decimal n).takeWhile (isDigitOf 10) = decimal n :=
    List.takeWhile_eq_self_iff.mpr fun c member => isDigitOf_of_isDigit (digits c member)
  have rest : (decimal n).dropWhile (isDigitOf 10) = [] :=
    List.dropWhile_eq_nil_iff.mpr fun c member => isDigitOf_of_isDigit (digits c member)
  obtain ⟨c, tail, first⟩ := List.exists_cons_of_ne_nil (decimal_ne_nil n)
  -- the numeral starts with a digit: neither a space nor a sign
  have digit := digits c (by rw [first]; exact List.mem_cons_self)
  unfold isDigit at digit
  simp only [Bool.and_eq_true, decide_eq_true_eq] at digit
  have notSpace : isSpace c = false := by
    have := noSpace.2 (c - 0x30) (by omega)
    rwa [show digitByte (c - 0x30) = c by unfold digitByte; omega] at this
  unfold numberText
  cases negative
  · rw [if_neg Bool.false_ne_true, List.nil_append, first, List.dropWhile_cons_of_neg
      (by simp [notSpace])]
    simp only [show c ≠ 0x2D by omega, show c ≠ 0x2B by omega, ↓reduceIte]
    rw [← first, run, rest]
  · rw [if_pos rfl, List.singleton_append, List.dropWhile_cons_of_neg (by simp [noSpace.1])]
    simp only [↓reduceIte]
    rw [run, rest]

/-- Every `longlong` that `String::set_int` writes, `my_strntoll_8bit` reads back whole. -/
theorem myStrntoll8bit_setInt {num : ℤ} (range : Sql.IsLonglong num)
    (noSpace : isSpace 0x2D = false ∧ ∀ d < 10, isSpace (digitByte d) = false) :
    myStrntoll8bit isSpace (setInt num false) 10 = ⟨num, (setInt num false).length, 0⟩ := by
  have reader := @myStrntoSigned8bit_eq isSpace 10 (setInt num false) 64 (by norm_num)
    (by norm_num) (by norm_num)
  unfold myStrntoll8bit
  rw [show longlongMin = -2 ^ (64 - 1) from rfl, show longlongMax = 2 ^ (64 - 1) - 1 from rfl,
    reader, setInt_signed range, numberText_decimal isSpace noSpace]
  unfold signedOfText Sql.IsLonglong at *
  simp only [if_neg (decimal_ne_nil _), runValue_decimal, List.length_nil, Nat.sub_zero]
  by_cases negative : num < 0 <;>
    simp only [negative, decide_true, decide_false, Bool.false_eq_true, ↓reduceIte] <;>
    rw [if_neg (by omega), if_neg (by omega)] <;>
    congr 1 <;> omega

theorem myStrntoll8bit_setInt_longlongMin :
    myStrntoll8bit (· == 0x20) (setInt longlongMin false) 10 =
      ⟨longlongMin, (setInt longlongMin false).length, 0⟩ :=
  myStrntoll8bit_setInt (· == 0x20) (by unfold Sql.IsLonglong longlongMin; norm_num) (by decide)

/-- Every `ulonglong` that `String::set_int` writes from the `longlong` that holds it,
`my_strntoull_8bit` reads back whole. -/
theorem myStrntoull8bit_setInt {u : ℕ} (small : u < 2 ^ 64)
    (noSpace : isSpace 0x2D = false ∧ ∀ d < 10, isSpace (digitByte d) = false) :
    myStrntoull8bit isSpace (setInt (toLonglong u) true) 10 =
      ⟨u, (setInt (toLonglong u) true).length, 0⟩ := by
  have reader := @myStrntoUnsigned8bit_eq isSpace 10 (setInt (toLonglong u) true) 64 le_rfl
    (by norm_num)
  have text := numberText_decimal isSpace noSpace false u
  simp only [Bool.false_eq_true, ↓reduceIte, List.nil_append] at text
  unfold myStrntoull8bit
  rw [reader, setInt_unsigned, toULonglong_toLonglong, toULonglong_natCast small, text]
  unfold unsignedOfText
  simp only [if_neg (decimal_ne_nil _), runValue_decimal, List.length_nil, Nat.sub_zero,
    Bool.false_eq_true, ↓reduceIte]
  rw [if_neg (by omega)]

theorem myStrntoull8bit_setInt_ulonglongMax :
    myStrntoull8bit (· == 0x20) (setInt (toLonglong ulonglongMax) true) 10 =
      ⟨ulonglongMax, (setInt (toLonglong ulonglongMax) true).length, 0⟩ :=
  myStrntoull8bit_setInt (· == 0x20) (by unfold ulonglongMax; norm_num) (by decide)

end ReadBack

end MariaDB.Strings
